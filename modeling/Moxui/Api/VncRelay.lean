import Mathlib.Data.List.Infix
import Mathlib.Tactic.Tauto
import Moxui.Lib.Relay

set_option autoImplicit false

namespace Moxui.Api

open Relay (Handling Heard Pump Duplex Turn)

structure CloseFrame where
  code : UInt16
  reason : String
deriving DecidableEq

-- `axum::extract::ws::Message`.
inductive BrowserMessage where
  | text (content : String)
  | binary (data : List UInt8)
  | ping (data : List UInt8)
  | pong (data : List UInt8)
  | close (frame : Option CloseFrame)
deriving DecidableEq

-- `tokio_tungstenite::tungstenite::Message`.
inductive UpstreamMessage where
  | text (content : String)
  | binary (data : List UInt8)
  | ping (data : List UInt8)
  | pong (data : List UInt8)
  | close (frame : Option CloseFrame)
  | frame (raw : List UInt8)
deriving DecidableEq

-- Only the send of a binary message ends the loop by failing; text is ignored.
def browserToUpstream : BrowserMessage → Handling UpstreamMessage
  | .binary data => .insist (.binary data)
  | .close _ => .finish (.close none)
  | .ping data => .attempt (.ping data)
  | .pong data => .attempt (.pong data)
  | .text _ => .skip

def upstreamToBrowser : UpstreamMessage → Handling BrowserMessage
  | .binary data => .insist (.binary data)
  | .close _ => .finish (.close none)
  | .ping data => .attempt (.ping data)
  | .pong data => .attempt (.pong data)
  | .text _ => .skip
  | .frame _ => .skip

abbrev Piping : Type :=
  Duplex BrowserMessage UpstreamMessage

abbrev PipeTurn : Type :=
  Turn BrowserMessage UpstreamMessage

def connectedPipes : Piping :=
  ⟨.fresh, .fresh⟩

def noPipes : Piping :=
  ⟨⟨[], false⟩, ⟨[], false⟩⟩

-- The request is built from the URL, the cluster answers or not, and then the two tasks take
-- their turns. A task outlives the function, since dropping its handle does not abort it.
def proxmoxVncProxy (request connect : Except String Unit) (turns : List PipeTurn) : Piping :=
  match request with
  | .error _ => noPipes
  | .ok _ =>
      match connect with
      | .error _ => noPipes
      | .ok _ => (Relay.duplex browserToUpstream upstreamToBrowser).run connectedPipes turns

-- `tokio::select!` waits for the first of the two tasks.
def returned (pipes : Piping) : Bool :=
  !(pipes.toRight.running && pipes.toLeft.running)

def BrowserMessage.data : BrowserMessage → Option (List UInt8)
  | .binary data => some data
  | _ => none

def UpstreamMessage.data : UpstreamMessage → Option (List UInt8)
  | .binary data => some data
  | _ => none

section Carries

variable {μ ν : Type}

-- What one direction has made of what it heard. The frames of the console come through
-- unchanged, up to some point or, while the direction is open, all of them; besides them comes
-- only what the messages call for, in their order; and all of that when every send works.
structure Carries (connected : Bool) (handling : μ → Handling ν) (taken : μ → Option (List UInt8))
    (given : ν → Option (List UInt8)) (heard : List (Heard μ)) (pump : Pump ν) : Prop where
  frames : pump.delivered.filterMap given <+: (Relay.received heard).filterMap taken
  whole : pump.running = true → pump.delivered.filterMap given = (Relay.received heard).filterMap taken
  ordered : pump.delivered.Sublist ((Relay.received heard).filterMap fun message => (handling message).message?)
  working : connected = true → ∀ messages, heard = messages.map (fun message => .message message true) →
    pump.delivered = (Relay.through handling messages).filterMap fun message => (handling message).message?
  runs : pump.running = true ↔ connected = true ∧ ∀ next ∈ heard, ¬ Relay.Stops handling next

structure Frames (handling : μ → Handling ν) (taken : μ → Option (List UInt8)) (given : ν → Option (List UInt8)) :
    Prop where
  sorted : Relay.Sorted handling fun sent => (given sent).isSome
  same : ∀ message, (handling message).insisted.bind given = taken message

theorem filter_some {α β : Type} (choose : α → Option β) (values : List α) :
    (values.filter fun value => (choose value).isSome).filterMap choose = values.filterMap choose := by
  induction values with
  | nil => rfl
  | cons value rest ih => cases chosen : choose value <;> simp [chosen, ih]

variable {handling : μ → Handling ν} {taken : μ → Option (List UInt8)} {given : ν → Option (List UInt8)}

theorem frames_insisted (frames : Frames handling taken given) (messages : List μ) :
    (messages.filterMap fun message => (handling message).insisted).filterMap given = messages.filterMap taken := by
  rw [List.filterMap_filterMap]
  exact List.filterMap_congr fun message _ => frames.same message

theorem unconnected_carries (heard : List (Heard μ)) : Carries false handling taken given heard ⟨[], false⟩ where
  frames := List.nil_prefix
  whole := by
    intro impossible
    cases impossible
  ordered := List.nil_sublist _
  working := by
    intro impossible
    cases impossible
  runs := by simp

theorem turns_carry (frames : Frames handling taken given) (heard : List (Heard μ)) :
    Carries true handling taken given heard (Pump.fresh.turns handling heard) := by
  obtain ⟨gained, gains⟩ := Relay.turns_gain frames.sorted heard .fresh rfl
  have delivered : (Pump.fresh.turns handling heard).delivered = gained := gains.delivered
  refine ⟨?_, ?_, ?_, ?_, ?_⟩
  · rw [delivered, ← filter_some given gained, ← frames_insisted frames]
    exact gains.started.filterMap given
  · intro running
    rw [delivered, ← filter_some given gained, ← frames_insisted frames, gains.whole running]
  · rw [delivered]
    exact gains.ordered
  · rintro _ messages rfl
    exact Relay.turns_working handling messages .fresh rfl
  · rw [Relay.turns_running_iff handling heard .fresh rfl]
    exact (and_iff_right rfl).symm

end Carries

theorem browser_frames : Frames browserToUpstream BrowserMessage.data UpstreamMessage.data where
  sorted := by
    refine ⟨?_, ?_, ?_⟩ <;> intro received message calls <;> cases received <;> cases calls <;> rfl
  same := by
    intro message
    cases message <;> rfl

theorem upstream_frames : Frames upstreamToBrowser UpstreamMessage.data BrowserMessage.data where
  sorted := by
    refine ⟨?_, ?_, ?_⟩ <;> intro received message calls <;> cases received <;> cases calls <;> rfl
  same := by
    intro message
    cases message <;> rfl

def connected (request connect : Except String Unit) : Bool :=
  request.isOk && connect.isOk

structure ConsoleCarried (request connect : Except String Unit) (turns : List PipeTurn) (pipes : Piping) : Prop where
  upstream : Carries (connected request connect) browserToUpstream BrowserMessage.data UpstreamMessage.data
    (turns.filterMap Turn.fromLeft) pipes.toRight
  browser : Carries (connected request connect) upstreamToBrowser UpstreamMessage.data BrowserMessage.data
    (turns.filterMap Turn.fromRight) pipes.toLeft
  returns : returned pipes = false ↔ connected request connect = true ∧
    (∀ next ∈ turns.filterMap Turn.fromLeft, ¬ Relay.Stops browserToUpstream next) ∧
      ∀ next ∈ turns.filterMap Turn.fromRight, ¬ Relay.Stops upstreamToBrowser next

-- However the two tasks take turns, whatever comes in and whichever sends fail.
theorem vnc_proxy_carries (request connect : Except String Unit) (turns : List PipeTurn) :
    ConsoleCarried request connect turns (proxmoxVncProxy request connect turns) := by
  have both : Carries (connected request connect) browserToUpstream BrowserMessage.data UpstreamMessage.data
        (turns.filterMap Turn.fromLeft) (proxmoxVncProxy request connect turns).toRight ∧
      Carries (connected request connect) upstreamToBrowser UpstreamMessage.data BrowserMessage.data
        (turns.filterMap Turn.fromRight) (proxmoxVncProxy request connect turns).toLeft := by
    cases request with
    | error reason => exact ⟨unconnected_carries _, unconnected_carries _⟩
    | ok built =>
        cases connect with
        | error reason => exact ⟨unconnected_carries _, unconnected_carries _⟩
        | ok opened =>
            simp only [proxmoxVncProxy, Relay.duplex_run]
            exact ⟨turns_carry browser_frames _, turns_carry upstream_frames _⟩
  refine ⟨both.1, both.2, ?_⟩
  simp only [returned, Bool.not_eq_false', Bool.and_eq_true, both.1.runs, both.2.runs]
  tauto

end Moxui.Api
