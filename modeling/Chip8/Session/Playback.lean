import Chip8.Session.Basic

set_option autoImplicit false

/-!
# Playing a session to its end

A session goes through turns. Each turn takes the time since the last one, handles all events that
came in, executes one frame and draws. It is the last turn if an event asked for the end or if the
machine stopped on a fault. When no more turns are given, the session is asked to end. A session
is broken off if it gets no window, if a report of it cannot be told, or if there is no room for
what it draws.

## Main definitions

* `Chip8.Turn` — the time and the events of a turn.
* `Chip8.Session.turn` — the session after a turn.
* `Chip8.Playback` — what a session leaves behind.
* `Chip8.Session.play` — a session played to its end.
-/

namespace Chip8

/-- What a turn brings. The time since the last turn comes from the clock that paces the frames; the
clock of the journal is another one. -/
structure Turn where
  /-- The milliseconds since the last turn. -/
  elapsed : Int
  /-- The events that came in, in order. -/
  events : List Event
  /-- The readings of the clock of the journal that are to come from this turn on, unless they are
  those that were to come anyway. -/
  clock? : Option (Nat → Int) := none

/-- The turn that a line describes: a number of milliseconds, then events, all separated by
blanks. -/
def Turn.ofText? (line : String) : Option Turn :=
  match (Listing.parts ' ' line).filter (!·.isEmpty) with
  | elapsed :: events =>
    elapsed.toInt?.map fun ms => { elapsed := ms, events := events.map .ofText }
  | [] => none

/-- The turn that ends a session when no other is left. -/
def Turn.closing : Turn :=
  { elapsed := 0, events := [.quit] }

/-- Turns in which the clock of the journal stands where the time of the turns has moved it. -/
def Turn.paced (now : Int) : List Turn → List Turn
  | [] => []
  | t :: turns =>
    { t with clock? := some fun _ => now + t.elapsed } :: paced (now + t.elapsed) turns

/-- The state of a session after a turn. -/
structure Session.Turned where
  /-- The session. -/
  session : Session
  /-- Whether another turn follows. -/
  goesOn : Bool
  /-- The fault that stopped the machine in this turn. -/
  fault : Option Fault

/-- A session at the beginning of a turn, before anything is done. -/
def Session.meet (s : Session) (t : Turn) : Session :=
  { s with journal := s.journal.setClock (t.clock?.getD s.journal.clock) }

/-- A session at the beginning of a turn: all events are handled. The second part tells whether none
of them ends the session. -/
def Session.beginTurn (s : Session) (t : Turn) : Session × Bool :=
  (s.meet t).handleAll t.events

/-- A session after a turn: all events are handled, a frame is executed. A fault is reported and
ends the session. -/
def Session.turn (s : Session) (t : Turn) : Session.Turned :=
  let handled := s.beginTurn t
  match handled.1.runFrame (some t.elapsed) with
  | (framed, some (.fault fault)) =>
    { session := framed.report (.failure (.fault fault)), goesOn := false, fault := some fault }
  | (framed, _) => { session := framed, goesOn := handled.2, fault := none }

/-- What a session leaves behind. -/
structure Playback where
  /-- The session at its end. -/
  session : Session
  /-- The fault that ended it. -/
  fault : Option Fault
  /-- How often the window was drawn. -/
  drawn : Nat
  /-- The window as it was drawn last, if it was drawn at all. -/
  shown : Option Image
  /-- The error that broke the session off, if one did. -/
  broken : Option Error

/-- The title of the window. -/
def Playback.title : String := "chipjax"

namespace Session

/-- What a session leaves behind that is broken off before anything is drawn. -/
def unplayed (s : Session) (error : Error) : Playback :=
  { session := s, fault := none, drawn := 0, shown := none, broken := some error }

/-- A session after a turn that was its last: the end is reported. -/
def finish (t : Turned) (window : Window) (drawn : Nat) : Playback :=
  let ended := t.session.report (.sessionEnd t.session.cycles)
  { session := ended, fault := t.fault, drawn, shown := some (t.session.picture window)
    broken := ended.hindrance }

/-- What a session leaves behind that is broken off in a turn, before that turn is drawn. The
window then still shows the session before the turn, if it was drawn. -/
def breakOff (s : Session) (t : Turned) (window : Window) (drawn : Nat) : Playback :=
  { session := t.session, fault := none, drawn
    shown := if drawn = 0 then none else some (s.picture window)
    broken := t.session.hindrance }

/-- Plays a session in a window that was drawn a number of times already. -/
def playFrom (s : Session) (window : Window) (drawn : Nat) : List Turn → Playback
  | [] =>
    let turned := s.turn .closing
    if turned.session.hindrance.isSome then breakOff s turned window drawn
    else finish turned window (drawn + 1)
  | t :: turns =>
    let turned := s.turn t
    if turned.session.hindrance.isSome then breakOff s turned window drawn
    else if turned.goesOn then turned.session.playFrom window (drawn + 1) turns
    else finish turned window (drawn + 1)

/-- What a session leaves behind that cannot be drawn: its first turn is over before that shows. -/
def playUndrawn (s : Session) (turns : List Turn) (error : Error) : Playback :=
  let turned := (s.turn (turns.headD .closing)).session
  turned.unplayed (turned.hindrance.getD error)

/-- Plays a session to its end. -/
def play (host : Host) (s : Session) (turns : List Turn) : Playback :=
  match Window.ofScale host s.scale, Image.hindrance? host s.scale with
  | .error error, _ => s.unplayed error
  | .ok _, some error => s.playUndrawn turns error
  | .ok window, none => s.playFrom window 0 turns

end Session

end Chip8
