import Mathlib.Data.List.TakeWhile
import Mathlib.Order.UpperLower.Closure
import EspMid.Codec.Envelope

/-! # Capability strings form an order

A string parses if and only if it is spelled from parts without separators, and then from one
`Cap` only (`parse_eq_some`). On the strings that parse (`Grant`), satisfying is a partial order: an
unscoped grant lies above its scoped ones, and those above nothing but themselves. What a list of
grants satisfies is the lower closure of its well-formed members, so an adoption grants by the set
of its strings. -/

namespace EspMid.Codec.Capability

open EspMid.Model.Core EspMid.Model.Capability EspMid.Model.Envelope EspMid.Codec.Envelope

/-! ### Splitting -/

theorem span_of_notMem {l : List Char} {c : Char} (h : c ∉ l) : l.span (· ≠ c) = (l, []) := by
  have hall : ∀ x ∈ l, decide (x ≠ c) = true := fun x hx => decide_eq_true fun hxc => h (hxc ▸ hx)
  rw [List.span_eq_takeWhile_dropWhile, List.takeWhile_eq_self_iff.mpr hall,
    List.dropWhile_eq_nil_iff.mpr hall]

theorem span_append_cons {a : List Char} {c : Char} (h : c ∉ a) (b : List Char) :
    (a ++ c :: b).span (· ≠ c) = (a, c :: b) := by
  have hall : ∀ x ∈ a, decide (x ≠ c) = true := fun x hx => decide_eq_true fun hxc => h (hxc ▸ hx)
  rw [List.span_eq_takeWhile_dropWhile, List.takeWhile_append_of_pos hall,
    List.dropWhile_append_of_pos hall, List.takeWhile_cons_of_neg (by simp),
    List.dropWhile_cons_of_neg (by simp), List.append_nil]

theorem splitOnce_of_notMem {s : String} {c : Char} (h : c ∉ s.toList) : splitOnce s c = none := by
  unfold splitOnce
  rw [span_of_notMem h]

theorem splitOnce_of_append {s : String} {a b : List Char} {c : Char}
    (hs : s.toList = a ++ c :: b) (ha : c ∉ a) :
    splitOnce s c = some (String.ofList a, String.ofList b) := by
  unfold splitOnce
  rw [hs, span_append_cons ha]

theorem splitOnce_eq_some {s a b : String} {c : Char} :
    splitOnce s c = some (a, b) ↔ s.toList = a.toList ++ c :: b.toList ∧ c ∉ a.toList := by
  constructor
  · intro h
    by_cases hmem : c ∈ s.toList
    · obtain ⟨l, r, hs, hl⟩ := List.eq_append_cons_of_mem hmem
      rw [splitOnce_of_append hs hl] at h
      cases h
      rw [String.toList_ofList, String.toList_ofList]
      exact ⟨hs, hl⟩
    · rw [splitOnce_of_notMem hmem] at h
      cases h
  · rintro ⟨hs, ha⟩
    rw [splitOnce_of_append hs ha, String.ofList_toList, String.ofList_toList]

/-! ### Parsing -/

/-- A part of a capability string: not empty, and free of the separators. -/
structure IsPart (p : String) : Prop where
  nonempty : p ≠ ""
  noColon : ':' ∉ p.toList
  noAt : '@' ∉ p.toList

theorem clean_iff {p : String} : Cap.clean p = true ↔ IsPart p := by
  unfold Cap.clean
  simp only [Bool.and_eq_true, Bool.not_eq_true', String.isEmpty_eq_false_iff,
    List.contains_eq_mem, decide_eq_false_iff_not]
  exact ⟨fun ⟨⟨h1, h2⟩, h3⟩ => ⟨h1, h2, h3⟩, fun h => ⟨⟨h.nonempty, h.noColon⟩, h.noAt⟩⟩

/-- `c:a`, or `c:a@p`. -/
def spell (c : Cap) : String :=
  c.component ++ ":" ++ c.action ++
    match c.scope with
    | none => ""
    | some p => "@" ++ p

/-- The string is spelled from the parts of `c`. -/
structure Spells (s : String) (c : Cap) : Prop where
  component : IsPart c.component
  action : IsPart c.action
  scope : ∀ p, c.scope = some p → IsPart p
  spelled : s = spell c

theorem parse_of_spells {s : String} {c : Cap} (h : Spells s c) : Cap.parse s = some c := by
  obtain ⟨component, action, scope⟩ := c
  obtain ⟨hcomponent, haction, hscope, rfl⟩ := h
  simp only at hcomponent haction hscope
  unfold Cap.parse
  cases scope with
  | none =>
    have hs : splitOnce (spell ⟨component, action, none⟩) ':' = some (component, action) :=
      splitOnce_eq_some.mpr ⟨by simp [spell], hcomponent.noColon⟩
    have hrest : splitOnce action '@' = none := splitOnce_of_notMem haction.noAt
    simp [hs, hrest, clean_iff.mpr hcomponent, clean_iff.mpr haction]
  | some p =>
    have hs : splitOnce (spell ⟨component, action, some p⟩) ':' =
        some (component, action ++ ("@" ++ p)) :=
      splitOnce_eq_some.mpr ⟨by simp [spell], hcomponent.noColon⟩
    have hrest : splitOnce (action ++ ("@" ++ p)) '@' = some (action, p) :=
      splitOnce_eq_some.mpr ⟨by simp, haction.noAt⟩
    simp [hs, hrest, clean_iff.mpr hcomponent, clean_iff.mpr haction, clean_iff.mpr (hscope p rfl)]

theorem spells_of_parse {s : String} {c : Cap} (h : Cap.parse s = some c) : Spells s c := by
  unfold Cap.parse at h
  obtain ⟨⟨component, rest⟩, hsplit, h⟩ := Option.bind_eq_some_iff.mp h
  obtain ⟨hs, -⟩ := splitOnce_eq_some.mp hsplit
  cases hat : splitOnce rest '@' with
  | none =>
    simp only [hat] at h
    split_ifs at h with hclean
    cases h
    simp only [Bool.or_eq_true, Bool.not_eq_true', not_or, Bool.not_eq_false, Option.all_none,
      Bool.true_eq_false, or_false] at hclean
    refine ⟨clean_iff.mp hclean.1, clean_iff.mp hclean.2, fun p hp => (by cases hp), ?_⟩
    exact String.toList_inj.mp (by simp [hs, spell])
  | some split =>
    obtain ⟨action, p⟩ := split
    obtain ⟨hrest, -⟩ := splitOnce_eq_some.mp hat
    simp only [hat] at h
    split_ifs at h with hclean
    cases h
    simp only [Bool.or_eq_true, Bool.not_eq_true', not_or, Bool.not_eq_false, Option.all_some]
      at hclean
    refine ⟨clean_iff.mp hclean.1.1, clean_iff.mp hclean.1.2, fun p' hp => ?_, ?_⟩
    · cases hp
      exact clean_iff.mp hclean.2
    · exact String.toList_inj.mp (by simp [hs, hrest, spell])

/-- **A string parses** if and only if it is spelled from clean parts, which are then unique. -/
theorem parse_eq_some {s : String} {c : Cap} : Cap.parse s = some c ↔ Spells s c :=
  ⟨spells_of_parse, parse_of_spells⟩

theorem parse_isSome {s : String} : (Cap.parse s).isSome ↔ ∃ c, Spells s c := by
  rw [Option.isSome_iff_exists]
  exact exists_congr fun c => parse_eq_some

/-! ### The order -/

/-- `g` lies above `n`: of one component and action, it has no scope or that of `n`. -/
structure Covers (g n : Cap) : Prop where
  component : g.component = n.component
  action : g.action = n.action
  scope : g.scope = none ∨ g.scope = n.scope

theorem satisfies_iff {g n : Cap} : g.satisfies n = true ↔ Covers g n := by
  unfold Cap.satisfies
  simp only [Bool.and_eq_true, beq_iff_eq, Bool.or_eq_true, Option.isNone_iff_eq_none]
  exact ⟨fun ⟨⟨h1, h2⟩, h3⟩ => ⟨h1, h2, h3⟩, fun h => ⟨⟨h.component, h.action⟩, h.scope⟩⟩

theorem Covers.refl (c : Cap) : Covers c c := ⟨rfl, rfl, Or.inr rfl⟩

theorem Covers.trans {a b c : Cap} (hab : Covers a b) (hbc : Covers b c) : Covers a c := by
  refine ⟨hab.component.trans hbc.component, hab.action.trans hbc.action, ?_⟩
  rcases hab.scope with h | h
  · exact Or.inl h
  · rw [h]
    exact hbc.scope

theorem Covers.antisymm {a b : Cap} (hab : Covers a b) (hba : Covers b a) : a = b := by
  have hscope : a.scope = b.scope := by
    rcases hab.scope with ha | h
    · rcases hba.scope with hb | h
      · rw [ha, hb]
      · exact h.symm
    · exact h
  obtain ⟨component, action, scope⟩ := a
  obtain ⟨component', action', scope'⟩ := b
  obtain ⟨rfl, rfl, -⟩ := hab
  cases hscope
  rfl

theorem grantSatisfies_iff {g n : String} :
    grantSatisfies g n = true ↔ ∃ cg cn, Spells g cg ∧ Spells n cn ∧ Covers cg cn := by
  unfold grantSatisfies
  constructor
  · intro h
    split at h
    · next cg cn hg hn => exact ⟨cg, cn, parse_eq_some.mp hg, parse_eq_some.mp hn, satisfies_iff.mp h⟩
    · cases h
  · rintro ⟨cg, cn, hg, hn, hcovers⟩
    rw [parse_eq_some.mpr hg, parse_eq_some.mpr hn]
    exact satisfies_iff.mpr hcovers

theorem Spells.unique {s : String} {c c' : Cap} (h : Spells s c) (h' : Spells s c') : c = c' :=
  Option.some.inj ((parse_eq_some.mpr h).symm.trans (parse_eq_some.mpr h'))

/-- On spelled strings, it is the order of what they spell. -/
theorem grantSatisfies_of_spells {g n : String} {cg cn : Cap} (hg : Spells g cg)
    (hn : Spells n cn) : grantSatisfies g n = true ↔ Covers cg cn := by
  rw [grantSatisfies_iff]
  constructor
  · rintro ⟨cg', cn', hg', hn', hcovers⟩
    rwa [hg.unique hg', hn.unique hn']
  · exact fun hcovers => ⟨cg, cn, hg, hn, hcovers⟩

/-- A string that parses. -/
@[ext] structure Grant where
  text : String
  parses : (Cap.parse text).isSome

theorem Grant.spells (g : Grant) : ∃ c, Spells g.text c := parse_isSome.mp g.parses

/-- **Grants are partially ordered**: the greater satisfies the lesser. -/
instance : PartialOrder Grant where
  le n g := grantSatisfies g.text n.text = true
  le_refl g := by
    obtain ⟨c, hc⟩ := g.spells
    exact (grantSatisfies_of_spells hc hc).mpr (Covers.refl c)
  le_trans a b c hab hbc := by
    obtain ⟨cc, cb, hc, hb, hcovers⟩ := grantSatisfies_iff.mp hbc
    obtain ⟨ca, ha⟩ := a.spells
    exact (grantSatisfies_of_spells hc ha).mpr
      (hcovers.trans ((grantSatisfies_of_spells hb ha).mp hab))
  le_antisymm a b hab hba := by
    obtain ⟨ca, ha⟩ := a.spells
    obtain ⟨cb, hb⟩ := b.spells
    have heq : cb = ca := ((grantSatisfies_of_spells hb ha).mp hab).antisymm
      ((grantSatisfies_of_spells ha hb).mp hba)
    exact Grant.ext (by rw [ha.spelled, hb.spelled, heq])

/-! ### Lists of grants -/

theorem anySatisfies_iff {grants : List String} {needed : String} :
    anySatisfies grants needed = true ↔ ∃ g ∈ grants, grantSatisfies g needed = true := by
  unfold anySatisfies grantSatisfies
  cases Cap.parse needed with
  | none => simp
  | some n =>
    simp only [List.any_filterMap, List.any_eq_true]
    refine exists_congr fun g => and_congr_right fun _ => ?_
    cases Cap.parse g with
    | none => rfl
    | some c => rfl

/-- What a list of grants satisfies lies below its well-formed members. -/
theorem anySatisfies_iff_lowerClosure {grants : List String} (needed : Grant) :
    anySatisfies grants needed.text = true ↔
      needed ∈ lowerClosure { g : Grant | g.text ∈ grants } := by
  rw [anySatisfies_iff, mem_lowerClosure]
  constructor
  · rintro ⟨g, hg, hsat⟩
    obtain ⟨cg, -, hspells, -⟩ := grantSatisfies_iff.mp hsat
    exact ⟨⟨g, parse_isSome.mpr ⟨cg, hspells⟩⟩, hg, hsat⟩
  · rintro ⟨g, hg, hle⟩
    exact ⟨g.text, hg, hle⟩

theorem anySatisfies_mono {grants grants' : List String} (h : grants ⊆ grants') {needed : String}
    (hsat : anySatisfies grants needed = true) : anySatisfies grants' needed = true := by
  obtain ⟨g, hg, hsat⟩ := anySatisfies_iff.mp hsat
  exact anySatisfies_iff.mpr ⟨g, h hg, hsat⟩

/-! ### Adoptions -/

/-- The adoption is decoded from an envelope that encodes the strings `caps`. -/
structure Carries (a : Adoption) (caps : List String) : Prop where
  decoded : ∃ b f s, Adoption.decode b = .ok a ∧ IsEncoding b f s ∧ f.caps = .slice caps

theorem Carries.grants {a : Adoption} {caps : List String} (h : Carries a caps) (needed : String) :
    a.grants needed = anySatisfies caps needed := by
  obtain ⟨b, f, s, hdecode, hencodes, hcaps⟩ := h.decoded
  obtain ⟨rfl, -⟩ := hencodes.unique (isEncoding_of_decode hdecode)
  cases hcaps
  rfl

/-- Satisfying is a partial order on the strings that parse, and holds of no other. -/
structure GrantsOrdered : Prop where
  malformed : ∀ g n, Cap.parse g = none ∨ Cap.parse n = none → grantSatisfies g n = false
  refl : ∀ s, (Cap.parse s).isSome → grantSatisfies s s = true
  trans : ∀ a b c, grantSatisfies a b = true → grantSatisfies b c = true →
    grantSatisfies a c = true
  antisymm : ∀ a b, grantSatisfies a b = true → grantSatisfies b a = true → a = b
  covers : ∀ g n cg cn, Spells g cg → Spells n cn → (grantSatisfies g n = true ↔ Covers cg cn)
  otherScope : ∀ g n cg cn p, Spells g cg → Spells n cn → cg.scope = some p → cn.scope ≠ some p →
    grantSatisfies g n = false

theorem grantsOrdered : GrantsOrdered where
  malformed g n h := by
    refine Bool.eq_false_iff.mpr fun hsat => ?_
    obtain ⟨cg, cn, hg, hn, -⟩ := grantSatisfies_iff.mp hsat
    rw [parse_eq_some.mpr hg, parse_eq_some.mpr hn] at h
    rcases h with h | h
    · cases h
    · cases h
  refl s h := le_refl (⟨s, h⟩ : Grant)
  trans a b c hab hbc := by
    obtain ⟨ca, cb, ha, hb, -⟩ := grantSatisfies_iff.mp hab
    obtain ⟨-, cc, -, hc, -⟩ := grantSatisfies_iff.mp hbc
    have hcb : (⟨c, parse_isSome.mpr ⟨cc, hc⟩⟩ : Grant) ≤ ⟨b, parse_isSome.mpr ⟨cb, hb⟩⟩ := hbc
    have hba : (⟨b, parse_isSome.mpr ⟨cb, hb⟩⟩ : Grant) ≤ ⟨a, parse_isSome.mpr ⟨ca, ha⟩⟩ := hab
    have hca := hcb.trans hba
    exact hca
  antisymm a b hab hba := by
    obtain ⟨ca, cb, ha, hb, -⟩ := grantSatisfies_iff.mp hab
    have heq : (⟨a, parse_isSome.mpr ⟨ca, ha⟩⟩ : Grant) = ⟨b, parse_isSome.mpr ⟨cb, hb⟩⟩ :=
      le_antisymm hba hab
    exact congrArg Grant.text heq
  covers g n cg cn := grantSatisfies_of_spells
  otherScope g n cg cn p hg hn hscope hother := by
    refine Bool.eq_false_iff.mpr fun hsat => ?_
    rcases ((grantSatisfies_of_spells hg hn).mp hsat).scope with h | h
    · rw [hscope] at h
      cases h
    · exact hother (h.symm.trans hscope)

/-- **Capability grants are an order on the well-formed strings.** A string parses if and only if
it is spelled from clean parts, which are unique, and two that parse alike are equal; satisfying is
ordered on them as `Covers` says; a list satisfies what one of its members does, so an adoption
grants by the set of the strings encoded, and the more the larger that set. -/
theorem capability_grants_are_an_order :
    (∀ s, (Cap.parse s).isSome ↔ ∃ c, Spells s c) ∧
    (∀ s c, Spells s c → Cap.parse s = some c ∧ ∀ c', Spells s c' → c' = c) ∧
    (∀ s s', (Cap.parse s).isSome → Cap.parse s = Cap.parse s' → s = s') ∧
    GrantsOrdered ∧
    (∀ list n, anySatisfies list n = true ↔ ∃ g ∈ list, grantSatisfies g n = true) ∧
    (∀ a caps n, Carries a caps →
      (a.grants n = true ↔ ∃ g ∈ caps, grantSatisfies g n = true)) ∧
    (∀ a a' caps caps', Carries a caps → Carries a' caps' → caps ⊆ caps' →
      ∀ n, a.grants n = true → a'.grants n = true) ∧
    ∀ a a' caps caps', Carries a caps → Carries a' caps' → (∀ g, g ∈ caps ↔ g ∈ caps') →
      ∀ n, a.grants n = a'.grants n := by
  have hmono : ∀ a a' caps caps', Carries a caps → Carries a' caps' → caps ⊆ caps' →
      ∀ n, a.grants n = true → a'.grants n = true := by
    intro a a' caps caps' h h' hsub n
    rw [h.grants, h'.grants]
    exact anySatisfies_mono hsub
  refine ⟨fun s => parse_isSome, fun s c h => ⟨parse_eq_some.mpr h, fun c' h' => h'.unique h⟩, ?_,
    grantsOrdered, fun list n => anySatisfies_iff, ?_, hmono, ?_⟩
  · intro s s' hs heq
    obtain ⟨c, hc⟩ := parse_isSome.mp hs
    rw [parse_eq_some.mpr hc] at heq
    rw [hc.spelled, (parse_eq_some.mp heq.symm).spelled]
  · intro a caps n h
    rw [h.grants]
    exact anySatisfies_iff
  · intro a a' caps caps' h h' hsame n
    rw [Bool.eq_iff_iff]
    exact ⟨hmono a a' caps caps' h h' (fun g => (hsame g).mp) n,
      hmono a' a caps' caps h' h (fun g => (hsame g).mpr) n⟩

end EspMid.Codec.Capability
