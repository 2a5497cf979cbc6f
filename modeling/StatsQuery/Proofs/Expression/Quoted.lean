import StatsQuery.Proofs.Expression.Reader

namespace StatsQuery.Expression

open Json (Reader)

def readQuoted : Reader String
  | '\x27' :: cs => (unquote cs).map fun (text, rest) => (.ofList text, rest)
  | _            => none

section

variable {text rest cs : List Char}

theorem toList_quote (s : String) : (quote s).toList = quoteChars s.toList :=
  String.toList_ofList

theorem quoteChars_cons_append (c : Char) (h : quoteChars text ++ rest = '\x27' :: cs) :
    quoteChars (c :: text) ++ rest = '\x27' :: ((if c = '\x27' then [c, c] else [c]) ++ cs) := by
  have hs (text : List Char) :
      quoteChars text ++ rest =
        '\x27' :: (text.flatMap (fun c => if c = '\x27' then [c, c] else [c]) ++ '\x27' :: rest) := by
    simp [quoteChars]
  rw [hs] at h ⊢
  rw [List.flatMap_cons, List.append_assoc, (List.cons.inj h).right]

-- The reader stops at the first quote that no other one follows, and takes nothing but what is written for the text
-- that it has read by then.
theorem quoteChars_of_unquote (h : unquote cs = some (text, rest)) :
    quoteChars text ++ rest = '\x27' :: cs ∧ rest.head? ≠ some '\x27' := by
  fun_induction unquote cs generalizing text with
  | case1 cs hi =>
    obtain ⟨⟨ds, _⟩, hu, he⟩ := Option.map_eq_some_iff.mp h
    obtain ⟨rfl, rfl⟩ := Prod.mk.inj he
    obtain ⟨hq, hr⟩ := hi hu
    exact ⟨quoteChars_cons_append '\x27' hq, hr⟩
  | case2 cs hn =>
    obtain ⟨rfl, rfl⟩ := Prod.mk.inj (Option.some.inj h)
    refine ⟨rfl, fun hr => ?_⟩
    obtain ⟨ds, hd⟩ := List.head?_eq_some_iff.mp hr
    exact hn ds hd
  | case3 c cs _ hc hi =>
    obtain ⟨⟨ds, _⟩, hu, he⟩ := Option.map_eq_some_iff.mp h
    obtain ⟨rfl, rfl⟩ := Prod.mk.inj he
    obtain ⟨hq, hr⟩ := hi hu
    have hs := quoteChars_cons_append c hq
    rw [if_neg hc] at hs
    exact ⟨hs, hr⟩
  | case4 => contradiction

theorem readQuoted_eq_some_iff {s : String} :
    readQuoted cs = some (s, rest) ↔ cs = (quote s).toList ++ rest ∧ rest.head? ≠ some '\x27' := by
  rw [toList_quote]
  constructor
  case mp =>
    intro h
    unfold readQuoted at h
    split at h
    case h_2 => contradiction
    case h_1 =>
      obtain ⟨⟨text, _⟩, hu, he⟩ := Option.map_eq_some_iff.mp h
      obtain ⟨rfl, rfl⟩ := Prod.mk.inj he
      obtain ⟨hq, hr⟩ := quoteChars_of_unquote hu
      exact ⟨String.toList_ofList ▸ hq.symm, hr⟩
  case mpr =>
    rintro ⟨rfl, hr⟩
    obtain ⟨ds, hq, hu⟩ := quoteChars_append s.toList hr
    simp only [hq, readQuoted, hu, Option.map_some, String.ofList_toList]

end

variable {s t x y : String}

theorem readQuoted_quote (hx : x.toList.head? ≠ some '\x27') : readQuoted (quote s ++ x).toList = some (s, x.toList) :=
  readQuoted_eq_some_iff.mpr ⟨String.toList_append, hx⟩

-- With other things behind them, two quoted texts agree only if both the texts and what is behind them do. The reader gives
-- the text back and stops right behind its quoted form.
theorem quote_delimits_itself (hx : x.toList.head? ≠ some '\x27') (hy : y.toList.head? ≠ some '\x27') :
    (quote s ++ x = quote t ++ y ↔ s = t ∧ x = y) ∧ readQuoted (quote s ++ x).toList = some (s, x.toList) := by
  refine ⟨⟨fun h => ?_, fun ⟨hs, hr⟩ => hs ▸ hr ▸ rfl⟩, readQuoted_quote hx⟩
  have hr : some (s, x.toList) = some (t, y.toList) := by
    rw [← readQuoted_quote hx, h, readQuoted_quote hy]
  obtain ⟨hs, hr⟩ := Prod.mk.inj (Option.some.inj hr)
  exact ⟨hs, String.toList_inj.mp hr⟩

theorem quote_delimits_itself_hostile :
    let s := "x' or active='"
    let x := " and gameTypeId=2"
    let y := " or active='' and gameTypeId=2"
    x.toList.head? ≠ some '\x27' ∧ y.toList.head? ≠ some '\x27' ∧
      "'" ++ s ++ "'" ++ x = quote "x" ++ y ∧ quote s ++ x ≠ quote "x" ++ y ∧
      readQuoted "'x'' or active=''' and gameTypeId=2".toList = some (s, x.toList) := by
  intro s x y
  have hx : x.toList.head? ≠ some '\x27' := by decide
  have hy : y.toList.head? ≠ some '\x27' := by decide
  have hq : quote s ++ x = "'x'' or active=''' and gameTypeId=2" := by decide
  obtain ⟨hi, hr⟩ := quote_delimits_itself (s := s) (t := "x") hx hy
  exact ⟨hx, hy, by decide, fun h => absurd (hi.mp h).left (by decide), hq ▸ hr⟩

-- A quote right behind a quoted text goes on with it.
example : quote "Ryan O" ++ quote "Reilly" = quote "Ryan O'Reilly" := by decide

end StatsQuery.Expression
