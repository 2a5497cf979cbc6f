import StatsQuery.Proofs.Text.Runs
import StatsQuery.Proofs.Text.Utf8
import StatsQuery.Url.Form

namespace StatsQuery

namespace Percent

open Text (hexDigit hexValue?)

variable {cs : List Char}

theorem decodeBytes_cons (h : c ≠ '%') : decodeBytes (c :: cs) = String.utf8EncodeChar c ++ decodeBytes cs := by
  rw [decodeBytes]
  exact fun _ _ _ hc _ => h hc

theorem hexValue?_toUpper (h : n < 16) : hexValue? (hexDigit n).toUpper = some n := by
  have all : ∀ m ∈ List.range 16, hexValue? (hexDigit m).toUpper = some m := by decide
  exact all n (List.mem_range.mpr h)

theorem decodeBytes_encodeByte (b : UInt8) : decodeBytes (encodeByte b ++ cs) = b :: decodeBytes cs := by
  have hb : b.toNat < 256 := b.toNat_lt
  have hm : hexValue? (hexDigit (b.toNat / 16)).toUpper = some (b.toNat / 16) := hexValue?_toUpper (by omega)
  have hn : hexValue? (hexDigit (b.toNat % 16)).toUpper = some (b.toNat % 16) := hexValue?_toUpper (by omega)
  simp only [encodeByte, List.cons_append, List.nil_append, decodeBytes, hm, hn, Nat.div_add_mod, UInt8.ofNat_toNat]

theorem decodeBytes_encodeChar (c : Char) :
    decodeBytes (encodeChar c ++ cs) = String.utf8EncodeChar c ++ decodeBytes cs := by
  unfold encodeChar
  induction String.utf8EncodeChar c with
  | nil          => rfl
  | cons b bs hi => rw [List.flatMap_cons, List.append_assoc, decodeBytes_encodeByte, hi, List.cons_append]

theorem decodeBytes_flatMap {f : Char → List Char} (h : ∀ c, f c = [c] ∧ c ≠ '%' ∨ f c = encodeChar c) :
    decodeBytes (cs.flatMap f) = cs.flatMap String.utf8EncodeChar := by
  induction cs with
  | nil          => rfl
  | cons c cs hi =>
    rw [List.flatMap_cons, List.flatMap_cons]
    cases h c
    case inl h => rw [h.left, List.singleton_append, decodeBytes_cons h.right, hi]
    case inr h => rw [h, decodeBytes_encodeChar, hi]

def isWritten (c : Char) : Bool :=
  c == '%' || c.isDigit || c.isUpper

theorem isWritten_of_mem (h : d ∈ encodeChar c) : isWritten d := by
  have all : ∀ m ∈ List.range 16, isWritten (hexDigit m).toUpper := by decide
  have hd : ∀ m < 16, isWritten (hexDigit m).toUpper := fun m hm => all m (List.mem_range.mpr hm)
  have ⟨b, _, hb⟩ := List.mem_flatMap.mp h
  have : b.toNat < 256 := b.toNat_lt
  simp only [encodeByte, List.mem_cons, List.not_mem_nil, or_false] at hb
  rcases hb with rfl | rfl | rfl
  · rfl
  · exact hd _ (by omega)
  · exact hd _ (by omega)

end Percent

namespace Form

variable {cs : List Char}

def blank (c : Char) : Char :=
  if c = '+' then ' ' else c

def decodeText (cs : List Char) : String :=
  .ofList <| Utf8.decode <| Percent.decodeBytes <| cs.map blank

def decodePiece (cs : List Char) : String × String :=
  (decodeText (cs.takeWhile (· ≠ '=')), decodeText ((cs.dropWhile (· ≠ '=')).drop 1))

-- The pieces between ampersands, of which empty ones do not count: a name and a value around the first equals sign,
-- plus signs for blanks, and percent-encoded bytes.
def decode (query : List Char) : List (String × String) :=
  ((query.splitOn '&').filter (!·.isEmpty)).map decodePiece

def isWritten (c : Char) : Bool :=
  c == '+' || c == '%' || isPlain c

theorem isWritten_of_percent (h : Percent.isWritten c) : isWritten c := by
  simp only [Percent.isWritten, Bool.or_eq_true] at h
  simp only [isWritten, isPlain, Bool.or_eq_true]
  rcases h with (h | h) | h
  · exact .inl (.inr h)
  · exact .inr (.inl <| isAlphanum_of_isDigit h)
  · exact .inr (.inl <| isAlphanum_of_isUpper h)

theorem isWritten_of_mem (h : c ∈ encode cs) : isWritten c := by
  have ⟨d, _, hd⟩ := List.mem_flatMap.mp h
  unfold encodeChar at hd
  split at hd
  case isTrue => simp_all [isWritten]
  case isFalse =>
    split at hd
    case isTrue  => simp_all [isWritten]
    case isFalse => exact isWritten_of_percent <| Percent.isWritten_of_mem hd

theorem ne_of_isWritten (h : isWritten c) (hd : isWritten d = false) : c ≠ d :=
  fun e => by simp_all

theorem map_blank_encodeChar (c : Char) :
    (encodeChar c).map blank = [c] ∧ c ≠ '%' ∨ (encodeChar c).map blank = Percent.encodeChar c := by
  unfold encodeChar
  split
  case isTrue h => exact .inl ⟨h ▸ rfl, h ▸ nofun⟩
  case isFalse =>
    split
    case isTrue h =>
      have hp : c ≠ '+' := fun e => by simp [e, isPlain] at h
      have he : c ≠ '%' := fun e => by simp [e, isPlain] at h
      exact .inl ⟨by simp [blank, hp], he⟩
    case isFalse =>
      refine .inr <| (List.map_congr_left fun d hd => ?_).trans <| List.map_id _
      have : d ≠ '+' := fun e => by simpa [e, Percent.isWritten] using Percent.isWritten_of_mem hd
      simp [blank, this]

theorem decodeText_encode (cs : List Char) : decodeText (encode cs) = .ofList cs := by
  rw [decodeText, encode, List.map_flatMap, Percent.decodeBytes_flatMap map_blank_encodeChar, Utf8.decode_flatMap]

theorem decodePiece_pair (name value : String) : decodePiece (pair name value) = (name, value) := by
  have hp : ∀ c ∈ encode name.toList, decide (c ≠ '=') :=
    fun c hc => decide_eq_true <| ne_of_isWritten (isWritten_of_mem hc) rfl
  rw [decodePiece, pair, List.takeWhile_append_of_pos hp, List.dropWhile_append_of_pos hp]
  simp [decodeText_encode]

theorem mem_pair (h : c ∈ pair name value) : c = '=' ∨ isWritten c := by
  simp only [pair, List.mem_append, List.mem_cons] at h
  rcases h with h | h | h
  · exact .inr <| isWritten_of_mem h
  · exact .inl h
  · exact .inr <| isWritten_of_mem h

theorem decode_pair (name value : String) : decode (pair name value) = [(name, value)] := by
  have hs : (pair name value).splitOn '&' = [pair name value] :=
    List.splitOn_eq_singleton fun h => (mem_pair h).elim nofun nofun
  have hn : (pair name value).isEmpty = false := by simp [pair]
  simp [decode, hs, hn, decodePiece_pair]

theorem decode_nil : decode [] = [] := rfl

theorem decode_ampersand (cs ds : List Char) : decode (cs ++ '&' :: ds) = decode cs ++ decode ds := by
  simp [decode, List.splitOn_append_cons_self]

-- Appended pairs come back behind the pairs that there are already.
theorem decode_append (query : List Char) (pairs : List (String × String)) :
    decode (append query pairs) = decode query ++ pairs := by
  unfold append
  induction pairs generalizing query with
  | nil          => simp
  | cons p ps hi =>
    have hp : decode ((if query.isEmpty then query else query ++ ['&']) ++ pair p.1 p.2) = decode query ++ [p] := by
      cases query with
      | nil      => simp [decode_pair, decode_nil]
      | cons c cs =>
        change decode ((c :: cs ++ ['&']) ++ pair p.1 p.2) = _
        rw [List.append_assoc, List.singleton_append, decode_ampersand, decode_pair]
    rw [List.foldl_cons, hi, hp, List.append_assoc, List.singleton_append]

theorem mem_append (h : c ∈ append query pairs) : c ∈ query ∨ c = '&' ∨ c = '=' ∨ isWritten c := by
  unfold append at h
  induction pairs generalizing query with
  | nil          => exact .inl h
  | cons p ps hi =>
    cases hi h
    case inr h => exact .inr h
    case inl h =>
      cases List.mem_append.mp h
      case inr hp => exact .inr <| .inr <| mem_pair hp
      case inl hq =>
        split at hq
        case isTrue  => exact .inl hq
        case isFalse => exact (List.mem_append.mp hq).imp_right fun hm => .inl <| List.mem_singleton.mp hm

end Form

end StatsQuery
