namespace StatsQuery.Utf8

-- A character of which some bytes have been read: their value so far, how many more there are than the next one,
-- and the range that the next one has to be in.
structure Begun where
  value : Nat
  more  : Nat
  low   : Nat
  high  : Nat

def replacement : Char := '\uFFFD'

-- A byte at the start of a character. Bytes that only longer forms than needed could start with start none, and
-- the second byte is kept from making such a form, a surrogate, or a number beyond the last character.
def first (b : UInt8) : List Char × Option Begun :=
  let n := b.toNat
  if n < 0x80 then ([.ofNat n], none)
  else if n < 0xC2 then ([replacement], none)
  else if n < 0xE0 then ([], some ⟨n - 0xC0, 0, 0x80, 0xBF⟩)
  else if n < 0xF0 then
    ([], some ⟨n - 0xE0, 1, if n = 0xE0 then 0xA0 else 0x80, if n = 0xED then 0x9F else 0xBF⟩)
  else if n < 0xF5 then
    ([], some ⟨n - 0xF0, 2, if n = 0xF0 then 0x90 else 0x80, if n = 0xF4 then 0x8F else 0xBF⟩)
  else ([replacement], none)

def step (begun : Option Begun) (b : UInt8) : List Char × Option Begun :=
  match begun with
  | none   => first b
  | some s =>
    if s.low ≤ b.toNat ∧ b.toNat ≤ s.high then
      let value := 64 * s.value + (b.toNat - 0x80)
      match s.more with
      | 0     => ([.ofNat value], none)
      | n + 1 => ([], some ⟨value, n, 0x80, 0xBF⟩)
    else
      let (cs, begun) := first b
      (replacement :: cs, begun)

def decodeFrom (begun : Option Begun) : List UInt8 → List Char
  | []      => if begun.isSome then [replacement] else []
  | b :: bs =>
    let (cs, begun) := step begun b
    cs ++ decodeFrom begun bs

def decode (bs : List UInt8) : List Char :=
  decodeFrom none bs

section

variable {bs : List UInt8}

theorem step_following (h : low ≤ n % 64 + 128 ∧ n % 64 + 128 ≤ high) :
    step (some ⟨value, more, low, high⟩) (.ofNat (n % 64 + 128)) =
      match more with
      | 0     => ([.ofNat (64 * value + n % 64)], none)
      | k + 1 => ([], some ⟨64 * value + n % 64, k, 0x80, 0xBF⟩) := by
  have hb : (UInt8.ofNat (n % 64 + 128)).toNat = n % 64 + 128 := by simp; omega
  simp only [step, hb, h, and_self, if_true, Nat.add_sub_cancel]

theorem decodeFrom_more (h : low ≤ n % 64 + 128 ∧ n % 64 + 128 ≤ high) :
    decodeFrom (some ⟨value, more + 1, low, high⟩) (.ofNat (n % 64 + 128) :: bs) =
      decodeFrom (some ⟨64 * value + n % 64, more, 0x80, 0xBF⟩) bs := by
  simp only [decodeFrom, step_following h, List.nil_append]

theorem decodeFrom_last (h : low ≤ n % 64 + 128 ∧ n % 64 + 128 ≤ high) :
    decodeFrom (some ⟨value, 0, low, high⟩) (.ofNat (n % 64 + 128) :: bs) =
      .ofNat (64 * value + n % 64) :: decodeFrom none bs := by
  simp only [decodeFrom, step_following h, List.singleton_append]

theorem decodeFrom_none (h : first b = (cs, begun)) : decodeFrom none (b :: bs) = cs ++ decodeFrom begun bs := by
  simp only [decodeFrom, step, h]

section

variable {v : Nat}

theorem first_one (h : v ≤ 0x7F) : first (.ofNat v) = ([.ofNat v], none) := by
  have hb : (UInt8.ofNat v).toNat = v := by simp; omega
  simp only [first, hb]
  rw [if_pos (by omega)]

theorem first_two (h : v ≤ 0x7FF) (hl : 0x7F < v) :
    first (.ofNat (v / 64 % 32 + 192)) = ([], some ⟨v / 64, 0, 0x80, 0xBF⟩) := by
  have hb : (UInt8.ofNat (v / 64 % 32 + 192)).toNat = v / 64 + 192 := by simp; omega
  simp only [first, hb]
  rw [if_neg (by omega), if_neg (by omega), if_pos (by omega), Nat.add_sub_cancel]

theorem first_three (h : v ≤ 0xFFFF) (hl : 0x7FF < v) :
    first (.ofNat (v / 4096 % 16 + 224)) =
      ([], some ⟨v / 4096, 1, if v / 4096 = 0 then 0xA0 else 0x80, if v / 4096 = 13 then 0x9F else 0xBF⟩) := by
  have hb : (UInt8.ofNat (v / 4096 % 16 + 224)).toNat = v / 4096 + 224 := by simp; omega
  simp only [first, hb]
  rw [if_neg (by omega), if_neg (by omega), if_neg (by omega), if_pos (by omega), Nat.add_sub_cancel]
  simp only [Nat.add_eq_right, Nat.reduceEqDiff]

theorem first_four (h : v < 0x110000) (hl : 0xFFFF < v) :
    first (.ofNat (v / 262144 % 8 + 240)) =
      ([], some ⟨v / 262144, 2, if v / 262144 = 0 then 0x90 else 0x80, if v / 262144 = 4 then 0x8F else 0xBF⟩) := by
  have hb : (UInt8.ofNat (v / 262144 % 8 + 240)).toNat = v / 262144 + 240 := by simp; omega
  simp only [first, hb]
  rw [if_neg (by omega), if_neg (by omega), if_neg (by omega), if_neg (by omega), if_pos (by omega),
    Nat.add_sub_cancel]
  simp only [Nat.add_eq_right, Nat.reduceEqDiff]

end

theorem decode_utf8EncodeChar (c : Char) : decode (String.utf8EncodeChar c ++ bs) = c :: decode bs := by
  have hc : Char.ofNat c.val.toNat = c := Char.ofNat_toNat c
  have hv : c.val.toNat < 0xD800 ∨ 0xDFFF < c.val.toNat ∧ c.val.toNat < 0x110000 := c.valid
  simp only [decode, String.utf8EncodeChar]
  generalize c.val.toNat = v at hc hv
  -- One byte, two, three or four.
  split
  case isTrue h => simp only [List.cons_append, List.nil_append, decodeFrom_none (first_one h), hc]
  case isFalse hl =>
    split
    case isTrue h =>
      simp only [List.cons_append, List.nil_append, decodeFrom_none (first_two h (by omega))]
      rw [decodeFrom_last (by omega), Nat.div_add_mod, hc]
    case isFalse hl =>
      split
      case isTrue h =>
        simp only [List.cons_append, List.nil_append, decodeFrom_none (first_three h (by omega))]
        rw [decodeFrom_more (by split <;> split <;> omega), decodeFrom_last (by omega),
          show 64 * (64 * (v / 4096) + v / 64 % 64) + v % 64 = v by omega, hc]
      case isFalse hl =>
        simp only [List.cons_append, List.nil_append, decodeFrom_none (first_four (v := v) (by omega) (by omega))]
        rw [decodeFrom_more (by split <;> split <;> omega), decodeFrom_more (by omega), decodeFrom_last (by omega),
          show 64 * (64 * (64 * (v / 262144) + v / 4096 % 64) + v / 64 % 64) + v % 64 = v by omega, hc]

theorem decode_flatMap (cs : List Char) : decode (cs.flatMap String.utf8EncodeChar) = cs := by
  induction cs with
  | nil          => rfl
  | cons c cs hi => rw [List.flatMap_cons, decode_utf8EncodeChar, hi]

end

end StatsQuery.Utf8
