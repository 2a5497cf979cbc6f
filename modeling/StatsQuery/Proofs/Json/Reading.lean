import Mathlib.Data.List.Forall2
import StatsQuery.Json.Printer
import StatsQuery.Proofs.Json.Grammar

namespace StatsQuery.Json

def printMember (m : String × Json) : List Char :=
  Quoted.encode m.1.toList ++ ':' :: print m.2

section Brackets

variable {Text : List Char → α → Prop} {texts : List (List Char)} {as : List α}

theorem isList_intercalate (h : List.Forall₂ Text texts as) (hn : texts ≠ []) :
    IsList Text (List.intercalate [','] texts) as := by
  induction h with
  | nil => contradiction
  | @cons text a _ _ ht hs hi =>
    cases hs with
    | nil => simpa using IsList.one ht .nil
    | cons =>
      rw [List.intercalate_cons_cons, List.append_assoc]
      exact .more ht .nil .nil <| hi (List.cons_ne_nil _ _)

theorem isEnclosed_intercalate (h : List.Forall₂ Text texts as) : IsEnclosed Text (List.intercalate [','] texts) as := by
  cases h with
  | nil        => exact .empty .nil
  | cons ht hs => exact .list .nil <| isList_intercalate (.cons ht hs) (List.cons_ne_nil _ _)

end Brackets

section Values

variable {depth : Nat} {j k : Json} {js ks : List Json} {ms ns : List (String × Json)}

theorem printItems_eq (js : List Json) : printItems js = List.intercalate [','] (js.map print) := by
  induction js with
  | nil          => rfl
  | cons j js hi =>
    cases js with
    | nil      => simp [printItems]
    | cons _ _ => simp [printItems, hi, List.intercalate_cons_cons]

theorem printMembers_eq (ms : List (String × Json)) :
    printMembers ms = List.intercalate [','] (ms.map printMember) := by
  induction ms with
  | nil          => rfl
  | cons m ms hi =>
    cases ms with
    | nil      => simp [printMembers, printMember]
    | cons _ _ => simp [printMembers, printMember, hi, List.intercalate_cons_cons]

theorem isInside_escape (cs : List Char) : Quoted.IsInside (cs.flatMap Quoted.escape) cs := by
  have ⟨text, ht, hi⟩ := Quoted.exists_of_decode (Quoted.decode_escape cs [])
  exact List.append_cancel_right ht ▸ hi

theorem isValue_str (depth : Nat) (s : String) : IsValue depth (print (.str s)) (.str s) := by
  have hs : IsScalar (print (.str s)) (.str s) := by
    simpa [print, Quoted.encode] using IsScalar.str (isInside_escape s.toList)
  cases depth with
  | zero   => exact hs
  | succ _ => exact .inl hs

theorem isValue_arr (h : List.Forall₂ (IsValue depth) (js.map print) ks) :
    IsValue (depth + 1) (print (.arr js)) (.arr ks) := by
  rw [print, printItems_eq]
  exact .inr <| .arr <| isEnclosed_intercalate h

theorem isMember_print (name : String) (h : IsValue depth (print j) k) :
    IsMember (IsValue depth) (printMember (name, j)) (name, k) := by
  simpa [printMember, Quoted.encode] using IsMember.intro (isInside_escape name.toList) .nil .nil h

theorem isValue_obj (h : List.Forall₂ (IsMember (IsValue depth)) (ms.map printMember) ns) :
    IsValue (depth + 1) (print (.obj ms)) (.ofMembers ns) := by
  rw [print, printMembers_eq]
  exact .inr <| .obj <| isEnclosed_intercalate h

theorem isText_compact (h : IsValue maxDepth (print j) k) : IsText j.compact.toList k := by
  simpa [compact] using IsText.intro .nil h .nil

theorem parse?_compact (h : IsValue maxDepth (print j) k) : parse? j.compact = some k :=
  parse?_eq_some_iff.mpr <| isText_compact h

end Values

end StatsQuery.Json
