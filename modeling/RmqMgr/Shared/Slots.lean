import Mathlib.Algebra.BigOperators.Group.List.Basic
import Mathlib.Algebra.GroupWithZero.Nat
import Mathlib.Data.List.Basic

set_option autoImplicit false

-- The flags of a record say which of its slots are written, and they go first, so that the
-- reader knows which slots to expect.

namespace Slots

-- Records `S` with flags `G`, written as `B`s and read from a source `F`. `copy` puts the slot of
-- the first record into the second.
structure Slot (S G F B : Type) where
  present : G → Bool
  write : S → List B
  read : F → S → Option (S × F)
  copy : S → S → S

variable {S G F B : Type} (flags : S → G)

def fill (slots : List (Slot S G F B)) (s : S) : List B :=
  slots.flatMap fun slot => if slot.present (flags s) then slot.write s else []

def parse : List (Slot S G F B) → S → F → Option (S × F)
  | [], into, source => some (into, source)
  | slot :: rest, into, source =>
    if slot.present (flags into) then
      (slot.read source into).bind fun (into, source) => parse rest into source
    else parse rest into source

def sent (slots : List (Slot S G F B)) (s into : S) : S :=
  slots.foldl (fun into slot => if slot.present (flags s) then slot.copy s into else into) into

structure Slot.Recovers (unread : F → List B) (slot : Slot S G F B) (s : S) : Prop where
  reads : ∀ source rest into, unread source = slot.write s ++ rest →
    ∃ source', slot.read source into = some (slot.copy s into, source') ∧ unread source' = rest
  flags : ∀ into, flags (slot.copy s into) = flags into

variable {flags} {unread : F → List B} {slots : List (Slot S G F B)} {s into : S}

theorem parse_fill (recovers : ∀ slot ∈ slots, slot.present (flags s) = true →
      slot.Recovers flags unread s) (same : flags into = flags s) {source : F} {rest : List B}
    (starts : unread source = fill flags slots s ++ rest) :
    ∃ source', parse flags slots into source = some (sent flags slots s into, source') ∧
      unread source' = rest := by
  induction slots generalizing into source with
  | nil => exact ⟨source, rfl, starts⟩
  | cons slot others ih =>
    have later : ∀ slot ∈ others, slot.present (flags s) = true → slot.Recovers flags unread s :=
      fun slot member => recovers slot (List.mem_cons_of_mem _ member)
    cases present : slot.present (flags s) with
    | true =>
      have own := recovers slot (List.mem_cons_self ..) present
      simp only [fill, List.flatMap_cons, present, if_true, List.append_assoc] at starts
      obtain ⟨next, read, remaining⟩ := own.reads source _ into starts
      obtain ⟨last, parsed, final⟩ := ih later ((own.flags into).trans same) remaining
      refine ⟨last, ?_, final⟩
      simp [parse, sent, same, present, read, parsed]
    | false =>
      simp only [fill, List.flatMap_cons, present, Bool.false_eq_true, if_false,
        List.nil_append] at starts
      obtain ⟨last, parsed, final⟩ := ih later same starts
      refine ⟨last, ?_, final⟩
      simp [parse, sent, same, present, parsed]

theorem fill_length : (fill flags slots s).length =
    (slots.map fun slot => if slot.present (flags s) then (slot.write s).length else 0).sum := by
  induction slots with
  | nil => rfl
  | cons slot others ih =>
    simp only [fill, List.flatMap_cons, List.length_append, List.map_cons, List.sum_cons] at ih ⊢
    rw [ih]
    split <;> rfl

theorem parse_invariant {P : S → Prop} {result : S} {source source' : F}
    (kept : ∀ slot ∈ slots, ∀ source into into' source', slot.present (flags into) = true →
      slot.read source into = some (into', source') → P into → P into')
    (initial : P into) (parsed : parse flags slots into source = some (result, source')) :
    P result := by
  induction slots generalizing into source with
  | nil =>
    simp only [parse, Option.some.injEq, Prod.mk.injEq] at parsed
    obtain ⟨rfl, _⟩ := parsed
    exact initial
  | cons slot others ih =>
    have later := fun slot member => kept slot (List.mem_cons_of_mem _ member)
    simp only [parse] at parsed
    split at parsed
    next present =>
      obtain ⟨⟨next, middle⟩, read, continued⟩ := Option.bind_eq_some_iff.mp parsed
      have own := kept slot (List.mem_cons_self ..) _ _ _ _ present read initial
      exact ih later own continued
    next => exact ih later initial parsed

end Slots
