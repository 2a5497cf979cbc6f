import StatsQuery.Expression.Fact
import StatsQuery.Expression.Primary
import StatsQuery.Proofs.Json.Inverse
import StatsQuery.Shaping

namespace StatsQuery

open Json Json.Decode

theorem inverts_codes : Inverts (oneOrMany string) (OneOrMany.toJson .str) :=
  Inverts.string.oneOrMany fun _ => rfl

theorem Primary.ofJson?_toJson (p : Primary) : ofJson? p.toJson = some p := by
  unfold ofJson? toJson
  refine Fields.bind_of?_ofMembers ?distinct fun fs hl => ?found
  case distinct => simp [Members.keys]
  case found =>
    simp [Fields.optional, hl, List.lookup_cons, Inverts.string.nullable, Inverts.bool.nullable, Inverts.uint8.nullable,
      Inverts.uint32.nullable, inverts_codes.nullable]

theorem Fact.ofJson?_toJson (f : Fact) : ofJson? f.toJson = some f := by
  unfold ofJson? toJson
  refine Fields.bind_of?_ofMembers ?distinct fun fs hl => ?found
  case distinct => simp [Members.keys]
  case found =>
    simp [Fields.optional, Fields.withDefault, hl, List.lookup_cons, Inverts.uint32.read_write, Inverts.uint32.nullable,
      inverts_codes.nullable]

theorem Page.ofJson?_toJson (page : Page) : ofJson? page.toJson = some page := by
  simp [toJson, envelope, ofJson?, Fields.of?, Fields.withDefault, List.lookup_cons, list_any, Inverts.uint64.read_write]

theorem bind_read_write {read : Decoder α} {write : α → Json} (h : ∀ a, read (write a) = some a) (j : Json) :
    ((read j).bind fun a => read (write a)) = read j := by
  cases hr : read j with
  | none   => rfl
  | some a => exact h a

-- Filters, thresholds and pages are read back from what they are written as, and so they do not change any more once they
-- have been read, whatever they have been read from.
theorem parameters_read_back :
    (∀ p : Primary, Primary.ofJson? p.toJson = some p) ∧
    (∀ f : Fact, Fact.ofJson? f.toJson = some f) ∧
    (∀ page : Page, Page.ofJson? page.toJson = some page) ∧
    ∀ j : Json,
      ((Primary.ofJson? j).bind fun p => Primary.ofJson? p.toJson) = Primary.ofJson? j ∧
      ((Fact.ofJson? j).bind fun f => Fact.ofJson? f.toJson) = Fact.ofJson? j ∧
      ((Page.ofJson? j).bind fun page => Page.ofJson? page.toJson) = Page.ofJson? j :=
  ⟨Primary.ofJson?_toJson, Fact.ofJson?_toJson, Page.ofJson?_toJson, fun j =>
    ⟨bind_read_write Primary.ofJson?_toJson j, bind_read_write Fact.ofJson?_toJson j,
      bind_read_write Page.ofJson?_toJson j⟩⟩

example :
    (Fact.ofJson? (.arr [.ofNat 5, .null, .str "goals", .arr [.str ">="], .str "10"])).map Fact.toJson =
      some (.obj
        [("comparator", .arr [.str ">="]), ("max_gp", .null), ("min_gp", .ofNat 5), ("property", .str "goals"),
         ("value", .str "10")]) := by
  rfl

end StatsQuery
