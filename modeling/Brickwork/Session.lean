import Brickwork.Generate

/-!
# Sessions

An app that is edited step by step, with the options to generate it with. An edit names the parts it
changes by their place, and fails if there is none.

A sketch is made of one model, which nothing changes; the generator has no use for sessions. They
are for trying it out: on models that differ by one edit, and on models that no document describes,
with names that are no identifiers or thresholds that are not finite.
-/

namespace Brickwork

/-- An app under edit. -/
structure Session where
  app : App := { name := "Session" }
  options : Options := {}
deriving DecidableEq, Inhabited

/-- The part of an edit that leads nowhere. -/
inductive BadPlace where
  | index
  | first
  | second
  | machine
  | state
deriving DecidableEq, Inhabited

/-- The place of an entry in a list. A place that is not given is nowhere. -/
abbrev Place := Option Nat

/-- A change of an app or of its options. Without a machine, states are the app's own. -/
inductive Edit where
  | replace (app : App)
  | setName (name : String)
  | addBrick (brick : Brick)
  | dropBrick (index : Place)
  | swapBricks (first second : Place)
  | setInitial (initial : Option Identifier)
  | addState (state : State) (machine : Option Nat)
  | dropState (index : Place) (machine : Option Nat)
  | addTransition (transition : Transition) (state : Place) (machine : Option Nat)
  | setThreshold (threshold : Float) (state : Place) (machine : Option Nat)
  | addMachine (machine : Machine)
  | dropMachine (index : Place)
  | setPeriod (machine : Place) (period : Option UInt32)
  | setOptions (options : Options)
deriving DecidableEq

/-- The entry at a place, with the index of the place. -/
def entryAt? {α : Type} (entries : List α) (place : Place) : Option (Nat × α) := do
  let index ← place
  let entry ← entries[index]?
  return (index, entry)

/-- Changes the entry at a place; `bad` tells that there is none. -/
def changedAt {α : Type} (entries : List α) (place : Place) (bad : BadPlace)
    (change : α → Except BadPlace α) : Except BadPlace (List α) :=
  match entryAt? entries place with
  | some (index, entry) => (change entry).map fun entry => entries.set index entry
  | none => .error bad

/-- Takes the entry at a place out of a list. -/
def dropped {α : Type} (entries : List α) (place : Place) : Except BadPlace (List α) :=
  match entryAt? entries place with
  | some (index, _) => .ok (entries.eraseIdx index)
  | none => .error .index

namespace App

/-- Changes one machine. -/
def modifyMachine (app : App) (place : Place) (change : Machine → Except BadPlace Machine) :
    Except BadPlace App :=
  (changedAt app.machines place .machine change).map fun machines => { app with machines }

/-- Changes the states of a machine, or the app's own. -/
def modifyStates (app : App) (machine : Option Nat)
    (change : List State → Except BadPlace (List State)) : Except BadPlace App :=
  match machine with
  | none => (change app.states).map fun states => { app with states }
  | some index => app.modifyMachine (some index) fun machine =>
    (change machine.states).map fun states => { machine with states }

/-- Changes one state. -/
def modifyState (app : App) (machine : Option Nat) (place : Place)
    (change : State → Except BadPlace State) : Except BadPlace App :=
  app.modifyStates machine fun states => changedAt states place .state change

end App

/-- The transition with another threshold; its guard has to be a single analog condition. -/
def Transition.withThreshold? (transition : Transition) (threshold : Float) : Option Transition :=
  match transition.guard with
  | .condition (.analog brick comparison _) =>
    some { transition with guard := .condition (.analog brick comparison threshold) }
  | _ => none

/-- The state with another threshold in its last transition. -/
def State.withThreshold (state : State) (threshold : Float) : Except BadPlace State :=
  match state.transitions.getLast? with
  | some last =>
    match last.withThreshold? threshold with
    | some last => .ok { state with transitions := state.transitions.dropLast ++ [last] }
    | none => .error .state
  | none => .error .state

/-- The app after an edit that does not touch the options. -/
def App.edited (app : App) : Edit → Except BadPlace App
  | .replace app => .ok app
  | .setName name => .ok { app with name }
  | .addBrick brick => .ok { app with bricks := app.bricks ++ [brick] }
  | .dropBrick index => (dropped app.bricks index).map fun bricks => { app with bricks }
  | .swapBricks first second =>
    match entryAt? app.bricks first, entryAt? app.bricks second with
    | some (i, a), some (j, b) => .ok { app with bricks := (app.bricks.set i b).set j a }
    | none, _ => .error .first
    | some _, none => .error .second
  | .setInitial initial => .ok { app with initial }
  | .addState state machine => app.modifyStates machine fun states => .ok (states ++ [state])
  | .dropState index machine => app.modifyStates machine fun states => dropped states index
  | .addTransition transition state machine =>
    app.modifyState machine state fun state =>
      .ok { state with transitions := state.transitions ++ [transition] }
  | .setThreshold threshold state machine =>
    app.modifyState machine state fun state => state.withThreshold threshold
  | .addMachine machine => .ok { app with machines := app.machines ++ [machine] }
  | .dropMachine index => (dropped app.machines index).map fun machines => { app with machines }
  | .setPeriod machine period =>
    app.modifyMachine machine fun machine => .ok { machine with period }
  | .setOptions _ => .ok app

/-- The session after an edit. -/
def Session.edit (session : Session) (edit : Edit) : Except BadPlace Session :=
  (session.app.edited edit).map fun app =>
    match edit with
    | .setOptions options => ⟨app, options⟩
    | _ => { session with app }

end Brickwork
