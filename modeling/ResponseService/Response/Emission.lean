import ResponseService.Fault.Chain
import ResponseService.Response.Header

/-!
# Emissions and sinks

A response is a list of emissions: the status, header fields, octets of the
body, and the end.  A sink takes them one at a time and may refuse one, with a
fault.  `deliver` hands emissions over until one is refused; what a sink has
taken is then a first part of the list (`accepted_append_remaining`), all of it
exactly if none was refused.
-/

namespace ResponseService

/-- One thing that is handed to a sink. -/
inductive Emission where
  | status (status : Int)
  | header (name value : Text)
  | body (octets : List UInt8)
  /-- The response is complete. -/
  | flush
  deriving DecidableEq

/-- A consumer of emissions, with a state. -/
structure Sink (State : Type) where
  /-- The state after an emission, or the fault with which it is refused. -/
  take : State → Emission → Except Fault State

/-- How far a delivery has come. -/
structure Delivery (State : Type) where
  /-- What the sink has taken. -/
  accepted : List Emission
  /-- What the sink has refused, and why. -/
  refused : Option (Emission × Fault)
  /-- What was not handed over any more. -/
  remaining : List Emission
  state : State

namespace Sink

variable {State : Type}

/-- Hand emissions over until one is refused. -/
def deliver (sink : Sink State) (state : State) :
    List Emission → Delivery State
  | [] => ⟨[], none, [], state⟩
  | emission :: rest =>
      match sink.take state emission with
      | .error fault => ⟨[], some (emission, fault), rest, state⟩
      | .ok next =>
          let delivery := deliver sink next rest
          { delivery with accepted := emission :: delivery.accepted }

/-- A sink that keeps what it takes, latest first, and refuses what a
condition picks. -/
def recording (refuses : Emission → Option Fault) : Sink (List Emission) where
  take taken emission :=
    match refuses emission with
    | some fault => .error fault
    | none => .ok (emission :: taken)

end Sink

namespace Delivery

variable {State : Type}

/-- Nothing was handed over. -/
def nothing (state : State) : Delivery State := ⟨[], none, [], state⟩

/-- What was handed over, taken or not. -/
def offered (delivery : Delivery State) : List Emission :=
  delivery.accepted ++ (delivery.refused.map Prod.fst).toList

/-- The values of a header among emissions. -/
def headerValues (name : Text) (emissions : List Emission) : List Text :=
  emissions.filterMap fun
    | .header candidate value => if candidate = name then some value else none
    | _ => none

/-- The octets of each body among emissions. -/
def bodies (emissions : List Emission) : List (List UInt8) :=
  emissions.filterMap fun
    | .body octets => some octets
    | _ => none

/-- Exactly one length was announced, and it is that of the body handed over. -/
def lengthAgrees (delivery : Delivery State) : Bool :=
  match headerValues HeaderName.contentLength delivery.offered,
      bodies delivery.offered with
  | [announced], [octets] => decide (announced = Decimal.ofNat octets.length)
  | _, _ => false

/-- What was taken, refused and kept back is the list that was to be handed
over. -/
theorem accepted_append_remaining
    (sink : Sink State) (state : State) (emissions : List Emission) :
    (sink.deliver state emissions).offered ++
        (sink.deliver state emissions).remaining =
      emissions := by
  induction emissions generalizing state with
  | nil => rfl
  | cons emission rest ih =>
      simp only [Sink.deliver]
      split
      · rfl
      · next reached _ =>
          simpa [offered] using ih reached

end Delivery

end ResponseService
