import StatsQuery.Json.Decode
import StatsQuery.Proofs.View.Restriction

namespace StatsQuery.Json

namespace Members

variable {ms : Members} {name : String}

theorem lookup_ofList_of_nodup (h : (keys ms).Nodup) (name : String) : (ofList ms).lookup name = ms.lookup name := by
  rw [lookup_ofList]
  induction ms with
  | nil          => rfl
  | cons m ms hi =>
    obtain ⟨key, value⟩ := m
    have ⟨hk, hs⟩ := List.nodup_cons.mp h
    rw [List.reverse_cons, List.lookup_append, hi hs]
    by_cases hn : name = key
    case pos =>
      have hl : ms.lookup key = none := List.lookup_eq_none_iff.mpr fun m hm => bne_iff_ne.mpr fun he =>
        hk <| List.mem_map.mpr ⟨m, hm, he.symm⟩
      simp [hn, hl]
    case neg => simp [List.lookup_cons, beq_false_of_ne hn]

end Members

namespace Decode

theorem Fields.bind_of?_ofMembers {read : Fields → Option α} {ms : Members} (hn : (Members.keys ms).Nodup)
    (h : ∀ fs : Members, (∀ name, fs.lookup name = ms.lookup name) → read (.named fs) = some a) :
    (Fields.of? count (.ofMembers ms) >>= read) = some a :=
  h _ (Members.lookup_ofList_of_nodup hn)

variable {read : Decoder α} {write : α → Json}

-- Values are written so that they are read back, and never as `null`, which stands for an unset value.
structure Inverts (read : Decoder α) (write : α → Json) : Prop where
  read_write : ∀ a, read (write a) = some a
  ne_null    : ∀ a, write a ≠ .null

theorem natBelow_ofNat (hn : n < bound) (hb : bound ≤ UInt64.size) : natBelow bound (.ofNat n) = some n := by
  have h : n < 0x10000000000000000 := Nat.lt_of_lt_of_le hn hb
  have hz : 0 ≤ (n : Int) ∧ (n : Int) < (bound : Nat) := ⟨Int.natCast_nonneg n, Int.ofNat_lt.mpr hn⟩
  simp only [natBelow, Json.ofNat, Number.ofNat, Number.ofNat?, dif_pos h, Option.getD_some]
  rw [if_pos hz]
  rfl

theorem list_map (h : ∀ a, read (write a) = some a) (as : List α) : list read (.arr (as.map write)) = some as := by
  change (as.map write).mapM read = some as
  induction as with
  | nil          => rfl
  | cons a as hi => simp [h a, hi]

theorem list_any (js : List Json) : list any (.arr js) = some js := by
  have h : ∀ j, any (id j) = some j := fun _ => rfl
  simpa using list_map h js

namespace Inverts

theorem string : Inverts string .str :=
  ⟨fun _ => rfl, nofun⟩

theorem bool : Inverts bool .bool :=
  ⟨fun _ => rfl, nofun⟩

theorem word {ofNat : Nat → α} {toNat : α → Nat} (hs : size ≤ UInt64.size) (hl : ∀ a, toNat a < size)
    (hr : ∀ a, ofNat (toNat a) = a) : Inverts (word size ofNat) fun a => .ofNat (toNat a) where
  read_write a := by rw [Decode.word, natBelow_ofNat (hl a) hs, Option.map_some, hr]
  ne_null      := nofun

theorem uint8 : Inverts uint8 fun n => .ofNat n.toNat :=
  word (by decide) UInt8.toNat_lt_size fun _ => UInt8.ofNat_toNat

theorem uint32 : Inverts uint32 fun n => .ofNat n.toNat :=
  word (by decide) UInt32.toNat_lt_size fun _ => UInt32.ofNat_toNat

theorem uint64 : Inverts uint64 fun n => .ofNat n.toNat :=
  word (Nat.le_refl _) UInt64.toNat_lt_size fun _ => UInt64.ofNat_toNat

theorem oneOrMany (h : Inverts read write) (ha : ∀ js, read (.arr js) = none) :
    Inverts (oneOrMany read) (OneOrMany.toJson write) where
  read_write
    | .one a   => by simp [Decode.oneOrMany, OneOrMany.toJson, h.read_write a]
    | .many as => by simp [Decode.oneOrMany, OneOrMany.toJson, ha, list_map h.read_write as]
  ne_null
    | .one a  => h.ne_null a
    | .many _ => nofun

theorem nullable (h : Inverts read write) (o : Option α) : nullable read (.ofOption write o) = some o := by
  cases o with
  | none   => rfl
  | some a =>
    have hn := h.ne_null a
    have hr := h.read_write a
    unfold Decode.nullable
    split
    case h_1 hj => exact absurd hj hn
    case h_2    => exact congrArg (Option.map some) hr

end Inverts

end Decode

end StatsQuery.Json
