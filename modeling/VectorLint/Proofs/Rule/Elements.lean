/-
What the rule `elm` reports, key by key of its options. A key that disallows
reports each of its matches that no other key exempts, and a key that expects
a count reports once if the count is another (`errors_eq_flatMap`). Which
matches are exempt is a matter of all keys together, and of their order it is
not.

`check_expectations`: the errors of an element and the errors without one,
and when there are none.
-/
import Mathlib.Data.List.Forall2
import VectorLint.Proofs.Rule.Selecting

namespace VectorLint.Elements

variable {source : List Char} {d : Document} {members : List (String × Json.Value)}
  {checks : List Check} {id : NodeId} {v : Json.Value}

/-! ## What options ask for -/

/-- The values `false` and 0. -/
def disallows : Json.Value → Bool
  | .bool b => !b
  | v => v.asNat? = some 0

/-- Whether a count is as a value expects it: `true` expects some, a positive
number that many, a range a count within. The values that disallow expect
nothing of the count. -/
def fits : Json.Value → Nat → Bool
  | .bool b, count => !b || 0 < count
  | .array [least, most], count => least.asNat?.all (· ≤ count) && most.asNat?.all (count ≤ ·)
  | v, count => v.asNat?.all fun n => n = 0 || count = n

/-- Whether a key that does not disallow matches a node. -/
def exempts (d : Document) (members : List (String × Json.Value)) (id : NodeId) : Bool :=
  members.any fun (key, v) => !disallows v && d.matchesText key id

/-- The message about a count that is not as expected. -/
def countComplaint (d : Document) (key : String) : Json.Value → Message
  | .bool _ => .ofText ("Expected '" ++ key ++ "', none found")
  | v => ⟨[.string ("Found " ++ (d.countMatches key).repr ++ " elements for '" ++ key ++
      "', expected"), v]⟩

def disallowedMessage (key : String) : Message :=
  .ofText ("Element disallowed by '" ++ key ++ "'")

/-- The errors that a key of the options stands for. -/
def memberErrors (d : Document) (members : List (String × Json.Value)) (key : String)
    (v : Json.Value) : List (Message × Option NodeRef) :=
  if disallows v then
    ((List.range d.size).filter fun id => d.matchesText key id && !exempts d members id).map
      fun id => (disallowedMessage key, d.ref? id)
  else if fits v (d.countMatches key) then []
  else [(countComplaint d key v, none)]

/-! ## From checks to options -/

theorem ofNat_asNat? {n : Nat} (h : v.asNat? = some n) : Json.Value.ofNat n = v := by
  unfold Json.Value.asNat? at h
  split at h
  · rename_i i
    unfold Json.Integer.toNat? at h
    split at h
    · rename_i hi
      cases h
      rw [Json.Value.ofNat, Int.toNat_of_nonneg hi, Json.Integer.ofInt?_val]
      rfl
    · cases h
  · cases h

/-- What a value expects, a row of the table each. -/
inductive Denotes : Json.Value → Expectation → Prop
  | present : Denotes (.bool true) .present
  | absent : Denotes (.bool false) .disallowed
  | zero {x : Json.Number} (h : (Json.Value.number x).asNat? = some 0) :
      Denotes (.number x) .disallowed
  | count {x : Json.Number} {n : Nat} (h : (Json.Value.number x).asNat? = some n) (hn : n ≠ 0) :
      Denotes (.number x) (.exactly n)
  | range {least most : Json.Value} {m n : Nat} (hm : least.asNat? = some m)
      (hn : most.asNat? = some n) : Denotes (.array [least, most]) (.between m n)

theorem exists_number_of_asNat? {n : Nat} (h : v.asNat? = some n) : ∃ x, v = .number x := by
  unfold Json.Value.asNat? at h
  split at h
  · exact ⟨_, rfl⟩
  · cases h

theorem denotes_of_ofValue? {e : Expectation} (h : Expectation.ofValue? v = some e) :
    Denotes v e := by
  unfold Expectation.ofValue? at h
  split at h
  · cases h
    exact .present
  · cases h
    exact .absent
  · split at h
    · rename_i hm hn
      split at h <;> cases h
      exact .range hm hn
    · cases h
  · split at h
    · rename_i hzero
      obtain ⟨x, rfl⟩ := exists_number_of_asNat? hzero
      cases h
      exact .zero hzero
    · rename_i n hn hcount
      obtain ⟨x, rfl⟩ := exists_number_of_asNat? hcount
      cases h
      exact .count hcount hn
    · cases h

theorem denotes_of_readCheck {key : String} {c : Check} (h : readCheck (key, v) = .ok c) :
    Selector.parse key = .ok c.selector ∧ c.selector.source = key ∧ Denotes v c.expectation := by
  obtain ⟨s, hs, h⟩ := bind_eq_ok.mp h
  have hparse := readSelector_eq_ok.mp hs
  split at h
  · rename_i hv
    cases h
    exact ⟨hparse, Selector.source_of_parse hparse, denotes_of_ofValue? hv⟩
  · cases h

theorem Denotes.allows {e : Expectation} (h : Denotes v e) : e.allows = !disallows v := by
  cases h with
  | present | absent | range => rfl
  | zero h => simp [Expectation.allows, disallows, h]
  | count h hn => simp [Expectation.allows, disallows, h, hn]

/-- What is exempt is what a check allows. -/
theorem mem_allowedIn_iff (parsed : Document.parse source = .ok d)
    (h : members.mapM readCheck = .ok checks) :
    id ∈ allowedIn d checks ↔ exempts d members id = true := by
  have hcheck {key : String} {v : Json.Value} {c : Check} (hc : readCheck (key, v) = .ok c) :
      c.expectation.allows = true ∧ id ∈ d.select c.selector ↔
        (!disallows v && d.matchesText key id) = true := by
    obtain ⟨hparse, -, hdenotes⟩ := denotes_of_readCheck hc
    rw [hdenotes.allows, Document.mem_select_iff parsed, Document.matchesText_eq hparse,
      Bool.and_eq_true]
  simp only [allowedIn, exempts, List.mem_flatMap, List.mem_filter, List.any_eq_true]
  constructor
  · rintro ⟨c, ⟨hc, hallows⟩, hid⟩
    obtain ⟨m, hm, hread⟩ := exists_of_mem_mapM h hc
    exact ⟨m, hm, (hcheck hread).mp ⟨hallows, hid⟩⟩
  · rintro ⟨m, hm, hexempt⟩
    obtain ⟨c, hc, hread⟩ := exists_mem_of_mapM h hm
    obtain ⟨hallows, hid⟩ := (hcheck hread).mpr hexempt
    exact ⟨c, ⟨hc, hallows⟩, hid⟩

/-- The errors of a check are those of its key. -/
theorem errors_of_readCheck {c : Check} {key : String} (parsed : Document.parse source = .ok d)
    (hread : readCheck (key, v) = .ok c) {allowed : List NodeId}
    (hallowed : ∀ id, id ∈ allowed ↔ exempts d members id = true) :
    c.errors d allowed (d.select c.selector) = memberErrors d members key v := by
  obtain ⟨hparse, hsource, hdenotes⟩ := denotes_of_readCheck hread
  have hlength := Document.length_select parsed hparse
  have hkept (id : NodeId) : allowed.contains id = exempts d members id :=
    Bool.eq_iff_iff.mpr (List.contains_iff_mem.trans (hallowed id))
  have hmatches : (d.select c.selector).filter (fun id => !allowed.contains id) =
      (List.range d.size).filter fun id => d.matchesText key id && !exempts d members id := by
    rw [Document.select_eq_filter_text parsed hparse, List.filter_filter]
    simp only [hkept, Bool.and_comm]
  unfold Check.errors memberErrors
  generalize c.expectation = e at hdenotes
  cases hdenotes with
  | present =>
    simp only [← hlength, hsource, fits, countComplaint, disallows]
    cases d.select c.selector <;> simp
  | absent =>
    simp only [disallows, hmatches, hsource]
    rfl
  | zero h =>
    simp only [disallows, h, hmatches, hsource]
    rfl
  | @count x n h hn =>
    simp only [countMessage, ofNat_asNat? h, hlength, hsource, fits, countComplaint, disallows, h]
    simp [hn]
  | range hm hn =>
    simp only [countMessage, ofNat_asNat? hm, ofNat_asNat? hn, hlength, hsource, fits,
      countComplaint, disallows, hm, hn]
    simp [Json.Value.asNat?]

/-- **The errors of a rule, key by key.** -/
theorem errors_eq_flatMap (parsed : Document.parse source = .ok d)
    (h : members.mapM readCheck = .ok checks) :
    errors checks d = members.flatMap fun (key, v) => memberErrors d members key v :=
  flatMap_of_mapM h fun (_, _) _ hread =>
    errors_of_readCheck parsed hread fun _ => mem_allowedIn_iff parsed h

/-! ## The errors of an element, and those of none -/

theorem flatMap_ite_singleton {α β : Type} (p : α → Bool) (g : α → β) (xs : List α) :
    (xs.flatMap fun x => if p x then [g x] else []) = (xs.filter p).map g := by
  induction xs with
  | nil => rfl
  | cons x xs ih =>
    rw [List.flatMap_cons, ih, List.filter_cons]
    split <;> rfl

/-- Of the errors at several nodes, one is at a node if it is among them. -/
theorem filter_isAt_map_ref? (m : Message) (p : NodeId → Bool) (id : NodeId) :
    (((List.range d.size).filter p).map fun other => (m, d.ref? other)).filter (isAt id) =
      if id < d.size ∧ p id = true then [(m, d.ref? id)] else [] := by
  have hself : (List.range d.size).filter (· == id) = if id < d.size then [id] else [] := by
    rw [List.filter_beq, List.nodup_range.count]
    simp only [List.mem_range]
    split <;> rfl
  have hat : ((List.range d.size).filter p).filter (fun other => isAt id (m, d.ref? other)) =
      ((List.range d.size).filter (· == id)).filter p := by
    rw [List.filter_comm p]
    refine List.filter_congr fun other hother => ?_
    rw [isAt_ref? m (List.mem_range.mp (List.mem_filter.mp hother).1)]
    rfl
  rw [List.filter_map]
  show (List.filter (fun other => isAt id (m, d.ref? other)) _).map _ = _
  rw [hat, hself]
  by_cases hid : id < d.size <;> by_cases hp : p id = true <;> simp [hid, hp]

/-- A key has an error at a node if it disallows it, and no other. -/
theorem filter_isAt_memberErrors (key : String) (v : Json.Value) (id : NodeId) :
    (memberErrors d members key v).filter (isAt id) =
      if disallows v && d.matchesText key id && !exempts d members id then
        [(disallowedMessage key, d.ref? id)]
      else [] := by
  unfold memberErrors
  cases hv : disallows v with
  | true =>
    rw [if_pos rfl, filter_isAt_map_ref?]
    simp only [Bool.true_and]
    refine if_congr (and_iff_right_of_imp fun h => ?_) rfl rfl
    exact Document.lt_of_matchesText (Bool.and_eq_true_iff.mp h).1
  | false =>
    cases fits v (d.countMatches key) <;> rfl

theorem ref?_ne_none {id : NodeId} (h : id < d.size) : d.ref? id ≠ none := by
  obtain ⟨r, hr⟩ := Document.exists_ref? h
  rw [hr]
  exact Option.some_ne_none r

theorem fits_of_disallows (h : disallows v = true) (count : Nat) : fits v count = true := by
  cases v with
  | bool b => simp_all [disallows, fits]
  | number x =>
    simp only [disallows, decide_eq_true_eq] at h
    simp [fits, h]
  | _ => simp [disallows, Json.Value.asNat?] at h

/-- A key has an error without a node if the count of its matches is not as
expected. -/
theorem filter_isNone_memberErrors (key : String) (v : Json.Value) :
    (memberErrors d members key v).filter (·.2.isNone) =
      if !fits v (d.countMatches key) then [(countComplaint d key v, none)] else [] := by
  unfold memberErrors
  cases hv : disallows v with
  | true =>
    rw [if_pos rfl, fits_of_disallows hv, List.filter_eq_nil_iff.mpr]
    · rfl
    · simp only [List.forall_mem_map]
      intro id hid
      have hlt := List.mem_range.mp (List.mem_filter.mp hid).1
      simpa using ref?_ne_none hlt
  | false => cases fits v (d.countMatches key) <;> rfl

theorem memberErrors_eq_nil_iff {key : String} :
    memberErrors d members key v = [] ↔ fits v (d.countMatches key) = true ∧
      (disallows v = true → ∀ id, d.matchesText key id = true → exempts d members id = true) := by
  unfold memberErrors
  cases hv : disallows v with
  | true =>
    simp only [if_true, List.map_eq_nil_iff, List.filter_eq_nil_iff, fits_of_disallows hv, true_and,
      forall_const, Bool.and_eq_true, Bool.not_eq_true', not_and, Bool.not_eq_false]
    constructor
    · intro h id hid
      exact h id (List.mem_range.mpr (Document.lt_of_matchesText hid)) hid
    · intro h id _ hid
      exact h id hid
  | false => cases fits v (d.countMatches key) <;> simp

/-! ## What a check comes to -/

/-- The errors of a rule with the given options on a document. -/
structure Accords (d : Document) (members : List (String × Json.Value))
    (errors : List (Message × Option NodeRef)) : Prop where
  passes : errors = [] ↔ ∀ m ∈ members, fits m.2 (d.countMatches m.1) = true ∧
    (disallows m.2 = true → ∀ id, d.matchesText m.1 id = true → exempts d members id = true)
  /-- A node has an error for each key that disallows it, unless it is
  exempt. -/
  tied : ∀ id, errors.filter (isAt id) =
    if exempts d members id then []
    else (members.filter fun m => disallows m.2 && d.matchesText m.1 id).map
      fun m => (disallowedMessage m.1, d.ref? id)
  /-- Each count that is not as expected has an error without a node. -/
  untied : errors.filter (·.2.isNone) =
    (members.filter fun m => !fits m.2 (d.countMatches m.1)).map
      fun m => (countComplaint d m.1 m.2, none)
  placed : ∀ e ∈ errors, ∀ r ∈ e.2, r.document = d ∧ d.isElement r.id = true

theorem accords_flatMap (d : Document) (members : List (String × Json.Value)) :
    Accords d members (members.flatMap fun m => memberErrors d members m.1 m.2) where
  passes := by
    simp only [List.flatMap_eq_nil_iff, memberErrors_eq_nil_iff]
  tied id := by
    simp only [List.filter_flatMap, filter_isAt_memberErrors]
    cases exempts d members id with
    | true => simp
    | false =>
      simp only [Bool.not_false, Bool.and_true]
      exact flatMap_ite_singleton _ _ members
  untied := by
    simp only [List.filter_flatMap, filter_isNone_memberErrors]
    exact flatMap_ite_singleton _ _ members
  placed e he r hr := by
    obtain ⟨m, -, hm⟩ := List.mem_flatMap.mp he
    unfold memberErrors at hm
    split at hm
    · obtain ⟨id, hid, rfl⟩ := List.mem_map.mp hm
      have hmatch := (Bool.and_eq_true_iff.mp (List.mem_filter.mp hid).2).1
      obtain ⟨hdocument, hr, -⟩ := Document.of_ref?_eq_some hr
      exact ⟨hdocument, hr ▸ Document.isElement_of_matchesText hmatch⟩
    · split at hm
      · cases hm
      · cases List.mem_singleton.mp hm
        cases hr

/-- The star disallows what none of the other keys matches, and each of these
has to match something. -/
theorem Accords.passes_star {errors : List (Message × Option NodeRef)} {texts : List String}
    (h : Accords d (("*", .bool false) :: texts.map (·, .bool true)) errors) :
    errors = [] ↔
      (∀ id, d.isElement id = true → ∃ text ∈ texts, d.matchesText text id = true) ∧
      ∀ text ∈ texts, ∃ id, d.matchesText text id = true := by
  have hexempt (id : NodeId) :
      exempts d (("*", .bool false) :: texts.map (·, .bool true)) id = true ↔
        ∃ text ∈ texts, d.matchesText text id = true := by
    simp [exempts, disallows]
  rw [h.passes, List.forall_mem_cons, List.forall_mem_map]
  refine and_congr ?_ (forall₂_congr fun text _ => ?_)
  · simp only [fits, Bool.not_false, Bool.true_or, true_and, disallows, forall_const,
      Document.matchesText_star, hexempt]
  · simp [fits, disallows, Document.countMatches_pos_iff]

/-- **What `elm` reports.** A rule that is accepted reports what its keys stand
for, on every document; with the star disallowed and other keys allowed, it
passes if these match every element and each of them some. -/
theorem check_expectations (members : List (String × Json.Value)) (rule : Rule)
    (source : List Char) (d : Document)
    (accepted : factory (.data (.object members)) = .ok rule)
    (parsed : Document.parse source = .ok d) :
    (∀ m ∈ members, ∃ s, Selector.parse m.1 = .ok s) ∧
    ∃ errors, rule.Reports d errors ∧ Accords d members errors ∧
      ∀ texts : List String, members = ("*", .bool false) :: texts.map (·, .bool true) →
        (errors = [] ↔
          (∀ id, d.isElement id = true → ∃ text ∈ texts, d.matchesText text id = true) ∧
          ∀ text ∈ texts, ∃ id, d.matchesText text id = true) := by
  obtain ⟨members', checks, hoptions, hread, rfl⟩ := factory_eq_ok accepted
  cases hoptions
  refine ⟨fun m hm => ?_, errors checks d, Rule.reports_ofErrors _ d, ?_, ?_⟩
  · obtain ⟨c, -, hc⟩ := exists_mem_of_mapM hread hm
    exact ⟨_, parse_of_readCheck hc⟩
  · rw [errors_eq_flatMap parsed hread]
    exact accords_flatMap d members
  · rintro texts rfl
    have haccords := accords_flatMap d (("*", .bool false) :: texts.map (·, .bool true))
    rw [errors_eq_flatMap parsed hread]
    exact haccords.passes_star

/-- Keys that overlap: what `svg > g` matches is exempt, though not in the
count that is expected, and `rect` is disallowed twice. -/
def overlapping : List (String × Json.Value) :=
  [("*", .bool false), ("svg", .bool true), ("svg > g", .array [.ofNat 2, .ofNat 3]),
    ("rect", .ofNat 0)]

theorem check_overlapping : ∃ rule d errors,
    factory (.data (.object overlapping)) = .ok rule ∧
    Document.parse "<svg><g><rect/></g></svg>".toList = .ok d ∧
    rule.Reports d errors ∧ errors.filter (isAt 1) = [] ∧
    (errors.filter (isAt 2)).map (·.1.text) =
      ["Element disallowed by '*'", "Element disallowed by 'rect'"] ∧
    (errors.filter (·.2.isNone)).map (·.1.text) =
      ["Found 1 elements for 'svg > g', expected [2,3]"] := by
  obtain ⟨rule, accepted⟩ : ∃ rule, factory (.data (.object overlapping)) = .ok rule :=
    exists_ok_of_isOk (by decide +kernel)
  obtain ⟨d, parsed⟩ : ∃ d, Document.parse "<svg><g><rect/></g></svg>".toList = .ok d := ⟨_, rfl⟩
  obtain ⟨-, errors, reports, accords, -⟩ := check_expectations _ rule _ d accepted parsed
  have facts : (Document.parse "<svg><g><rect/></g></svg>".toList).toOption.map (fun d =>
      ((exempts d overlapping 1, exempts d overlapping 2),
        (overlapping.filter fun m => disallows m.2 && d.matchesText m.1 2).map
          (fun m => (disallowedMessage m.1).text),
        (overlapping.filter fun m => !fits m.2 (d.countMatches m.1)).map
          fun m => (countComplaint d m.1 m.2).text)) =
      some ((true, false), ["Element disallowed by '*'", "Element disallowed by 'rect'"],
        ["Found 1 elements for 'svg > g', expected [2,3]"]) := by
    decide +kernel
  rw [parsed] at facts
  simp only [Except.toOption, Option.map_some, Option.some.injEq, Prod.mk.injEq] at facts
  obtain ⟨⟨exempt, bare⟩, twice, counted⟩ := facts
  refine ⟨rule, d, errors, accepted, parsed, reports, ?_, ?_, ?_⟩
  · rw [accords.tied, exempt, if_pos rfl]
  · rw [accords.tied, bare, if_neg Bool.false_ne_true, List.map_map]
    exact twice
  · rw [accords.untied, List.map_map]
    exact counted

end VectorLint.Elements
