import ResponseService.Proofs.Ordered
import ResponseService.Proofs.Response.Delivery

/-!
# What a buffer holds

A buffer keeps of the emissions what a response needs: the last status, every
header in the place of its first setting and with its last value, the octets of
all bodies, and whether the end came (`ResponseBuffer.after_eq`).
-/

namespace ResponseService

namespace Delivery

/-- The statuses that are set, in their order. -/
def statuses (emissions : List Emission) : List Int :=
  emissions.filterMap fun
    | .status status => some status
    | _ => none

/-- The header fields that are set, in their order. -/
def fields (emissions : List Emission) : Headers :=
  emissions.filterMap fun
    | .header name value => some (name, value)
    | _ => none

/-- The octets of all bodies, one after the other. -/
def octets (emissions : List Emission) : List UInt8 :=
  (bodies emissions).flatten

theorem mem_statuses {emissions : List Emission} {status : Int} :
    status ∈ statuses emissions ↔ .status status ∈ emissions := by
  rw [statuses, List.mem_filterMap]
  constructor
  · rintro ⟨_ | _ | _ | _, member, same⟩ <;> cases same
    exact member
  · exact fun member => ⟨_, member, rfl⟩

theorem mem_fields {emissions : List Emission} {name value : Text} :
    (name, value) ∈ fields emissions ↔ .header name value ∈ emissions := by
  rw [fields, List.mem_filterMap]
  constructor
  · rintro ⟨_ | _ | _ | _, member, same⟩ <;> cases same
    exact member
  · exact fun member => ⟨_, member, rfl⟩

end Delivery

namespace ResponseWriter

section Emissions

open Delivery

variable (writer : ResponseWriter) (status : Int) (format : ResponseFormat)
  (schema : Option Text) (octets : List UInt8)

theorem statuses_emissionsWith :
    statuses (writer.emissionsWith status format schema octets) = [status] := by
  simp [statuses, emissionsWith, List.filterMap_append]

theorem fields_emissionsWith :
    fields (writer.emissionsWith status format schema octets) =
      writer.headers format schema octets.length := by
  simp [fields, emissionsWith, List.filterMap_append, List.filterMap_map]

theorem bodies_emissionsWith :
    bodies (writer.emissionsWith status format schema octets) = [octets] := by
  simp [bodies, emissionsWith, List.filterMap_append]

theorem flush_mem_emissionsWith :
    .flush ∈ writer.emissionsWith status format schema octets := by
  simp [emissionsWith]

end Emissions

end ResponseWriter

namespace ResponseBuffer

open Delivery

theorem state_deliver (buffer : ResponseBuffer) (emissions : List Emission) :
    (sink.deliver buffer emissions).state = emissions.foldl add buffer := by
  induction emissions generalizing buffer with
  | nil => rfl
  | cons emission rest ih => exact ih (buffer.add emission)

/-- An empty buffer after some emissions. -/
def after (emissions : List Emission) : ResponseBuffer :=
  emissions.foldl add .empty

theorem after_append_singleton (emissions : List Emission)
    (emission : Emission) :
    after (emissions ++ [emission]) = (after emissions).add emission := by
  rw [after, List.foldl_append, List.foldl_cons, List.foldl_nil, after]

/-- A buffer holds the last status, every header with its last value, all
octets, and whether the end was emitted. -/
theorem after_eq (emissions : List Emission) :
    after emissions =
      ⟨(statuses emissions).getLast?, Ordered.ofList (fields emissions),
        octets emissions, decide (.flush ∈ emissions)⟩ := by
  induction emissions using List.reverseRecOn with
  | nil => rfl
  | append_singleton emissions emission ih =>
      rw [after_append_singleton, ih]
      cases emission <;>
        simp [add, statuses, fields, octets, bodies,
          Ordered.ofList_append_singleton]

end ResponseBuffer

end ResponseService
