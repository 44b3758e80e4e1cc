import Autoscrcpy.Lib.Runs

/-!
# Streams of key strokes

A stroke presses or releases a key; pressing a held key again changes nothing. A stream is sound
when it releases only what is held. `sound_append` and `final_tap` say how streams compose, and
`apply_map` and `ok_map_iff` that renaming keys injectively changes nothing.
-/

namespace KeyStream

open Runs

/-- A press or a release of a key. -/
structure Stroke (κ : Type*) where
  key : κ
  down : Bool
  deriving DecidableEq, Repr

variable {κ ι : Type*} [DecidableEq κ] [DecidableEq ι]

/-- The keys held after a stroke. -/
def Stroke.apply (held : Finset κ) (e : Stroke κ) : Finset κ :=
  if e.down then insert e.key held else held.erase e.key

/-- A stroke that releases a held key or presses one. -/
def Stroke.Ok (held : Finset κ) (e : Stroke κ) : Prop := e.down = false → e.key ∈ held

/-- Every release is of a key that is held. -/
def Sound (held : Finset κ) (l : List (Stroke κ)) : Prop :=
  ∀ x ∈ visits Stroke.apply held l, x.2.Ok x.1

instance (held : Finset κ) (e : Stroke κ) : Decidable (e.Ok held) :=
  inferInstanceAs (Decidable (e.down = false → e.key ∈ held))

instance (held : Finset κ) (l : List (Stroke κ)) : Decidable (Sound held l) :=
  List.decidableBAll _ _

@[simp] theorem sound_nil (held : Finset κ) : Sound held [] := by simp [Sound]

theorem sound_cons {held : Finset κ} {e : Stroke κ} {l : List (Stroke κ)} :
    Sound held (e :: l) ↔ e.Ok held ∧ Sound (e.apply held) l := by
  rw [Sound, visits_cons, List.forall_mem_cons]
  rfl

theorem sound_append {held : Finset κ} {l l' : List (Stroke κ)} :
    Sound held (l ++ l') ↔ Sound held l ∧ Sound (final Stroke.apply held l) l' := by
  rw [Sound, visits_append, List.forall_mem_append]
  rfl

theorem sound_singleton {held : Finset κ} {e : Stroke κ} : Sound held [e] ↔ e.Ok held := by
  rw [sound_cons]
  exact and_iff_left (sound_nil _)

/-! ## Taps -/

/-- A key pressed and released at once. -/
def tap (k : κ) : List (Stroke κ) := [⟨k, true⟩, ⟨k, false⟩]

theorem sound_tap (held : Finset κ) (k : κ) : Sound held (tap k) := by
  rw [tap, sound_cons, sound_singleton]
  exact ⟨fun h => (by cases h), fun _ => Finset.mem_insert_self k held⟩

/-- A tap of a key that is not held leaves everything as it was. -/
theorem final_tap {held : Finset κ} {k : κ} (h : k ∉ held) :
    final Stroke.apply held (tap k) = held :=
  Finset.erase_insert h

/-! ## Renaming -/

/-- The stroke of the renamed key. -/
def Stroke.map (f : κ → ι) (e : Stroke κ) : Stroke ι := ⟨f e.key, e.down⟩

variable {f : κ → ι} {s : Set κ} {held : Finset κ} {e : Stroke κ}

theorem apply_subset (hs : ∀ k ∈ held, k ∈ s) (he : e.key ∈ s) : ∀ k ∈ e.apply held, k ∈ s := by
  intro k hk
  unfold Stroke.apply at hk
  split_ifs at hk
  · rcases Finset.mem_insert.1 hk with rfl | hk
    · exact he
    · exact hs k hk
  · exact hs k (Finset.mem_of_mem_erase hk)

/-- Renaming commutes with a stroke. -/
theorem apply_map (hf : Set.InjOn f s) (hs : ∀ k ∈ held, k ∈ s) (he : e.key ∈ s) :
    (e.map f).apply (held.image f) = (e.apply held).image f := by
  unfold Stroke.apply Stroke.map
  cases e.down with
  | true => exact (Finset.image_insert f e.key held).symm
  | false =>
    ext c
    simp only [Bool.false_eq_true, if_false, Finset.mem_erase, Finset.mem_image]
    constructor
    · rintro ⟨hne, k, hk, rfl⟩
      exact ⟨k, ⟨fun h => hne (congrArg f h), hk⟩, rfl⟩
    · rintro ⟨k, ⟨hne, hk⟩, rfl⟩
      exact ⟨fun h => hne (hf (hs k hk) he h), k, hk, rfl⟩

omit [DecidableEq κ] in
theorem ok_map_iff (hf : Set.InjOn f s) (hs : ∀ k ∈ held, k ∈ s) (he : e.key ∈ s) :
    (e.map f).Ok (held.image f) ↔ e.Ok held := by
  apply forall_congr'
  intro _
  show f e.key ∈ held.image f ↔ e.key ∈ held
  constructor
  · intro h
    obtain ⟨k, hk, heq⟩ := Finset.mem_image.1 h
    rwa [← hf (hs k hk) he heq]
  · exact Finset.mem_image_of_mem f

end KeyStream
