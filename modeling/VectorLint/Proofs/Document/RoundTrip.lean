/-
Trees as texts. A tree is proper if its names, texts and comments can stand
in a text as they are; `Written` says which texts write it, with any blanks
between the pieces, either kind of quotes and either form of an element
without children.

`parse_written`: a proper tree can be written, and every text that writes it
is read as the tree.
-/
import VectorLint.Proofs.Document.Parsing
import VectorLint.Proofs.Markup.Tags
import VectorLint.Proofs.Text.Trim

namespace VectorLint

open Markup

/-- Names are names and attributes distinct; a text has no blanks at its
ends; a comment can be told from its end. -/
def Content.Proper : Content → Prop
  | .element name attributes =>
    IsName name.toList ∧ (∀ a ∈ attributes, IsName a.1.toList) ∧ (attributes.map Prod.fst).Nodup
  | .text value => value.toList ≠ [] ∧ Text.trim value.toList = value.toList
  | .comment value => ¬ ['-', '-'] <:+: value.toList ∧ ¬ ['-'] <:+ value.toList

instance : DecidablePred Content.Proper
  | .element name attributes =>
    inferInstanceAs (Decidable (IsName name.toList ∧ (∀ a ∈ attributes, IsName a.1.toList) ∧
      (attributes.map Prod.fst).Nodup))
  | .text value =>
    inferInstanceAs (Decidable (value.toList ≠ [] ∧ Text.trim value.toList = value.toList))
  | .comment value =>
    inferInstanceAs (Decidable (¬ ['-', '-'] <:+: value.toList ∧ ¬ ['-'] <:+ value.toList))

namespace Forest

/-- The first top, if any, is no text. -/
def BeginsWithoutText (F : Forest Content) : Prop :=
  ∀ c ∈ F.tops.head?, c.kind ≠ .text

instance (F : Forest Content) : Decidable F.BeginsWithoutText :=
  inferInstanceAs (Decidable (∀ c ∈ F.tops.head?, c.kind ≠ .text))

/-- Only elements have something below them, and no text follows a text. -/
def Proper : Forest Content → Prop
  | nil => True
  | node top below next =>
    top.Proper ∧ (top.kind ≠ .element → below = nil) ∧
      (top.kind = .text → next.BeginsWithoutText) ∧ below.Proper ∧ next.Proper

instance decidableProper : (F : Forest Content) → Decidable F.Proper
  | nil => isTrue trivial
  | node top below next =>
    have := decidableProper below
    have := decidableProper next
    inferInstanceAs (Decidable (top.Proper ∧ (top.kind ≠ .element → below = nil) ∧
      (top.kind = .text → next.BeginsWithoutText) ∧ below.Proper ∧ next.Proper))

/-- The texts that write a forest. -/
inductive Written : Forest Content → List Char → Prop
  | nil {w : List Char} (hw : Text.Blank w) : Written nil w
  | text {value : String} {next : Forest Content} {w s : List Char} (hw : Text.Blank w)
      (hnext : Written next s) :
      Written (node (.text value) nil next) (w ++ (escape value.toList ++ s))
  | comment {value : String} {next : Forest Content} {w s : List Char} (hw : Text.Blank w)
      (hnext : Written next s) :
      Written (node (.comment value) nil next)
        (w ++ ('<' :: '!' :: '-' :: '-' :: (value.toList ++ ['-', '-', '>']) ++ s))
  | empty {name : String} {attributes : List (String × String)} {next : Forest Content}
      {w as inTag s : List Char} (hw : Text.Blank w) (has : WrittenAttributes attributes as)
      (htag : Spaces inTag) (hnext : Written next s) :
      Written (node (.element name attributes) nil next)
        (w ++ ('<' :: (name.toList ++ (as ++ (inTag ++ ['/', '>']))) ++ s))
  | element {name : String} {attributes : List (String × String)} {below next : Forest Content}
      {w as inTag inner inEnd s : List Char} (hw : Text.Blank w)
      (has : WrittenAttributes attributes as) (htag : Spaces inTag) (hbelow : Written below inner)
      (hend : Spaces inEnd) (hnext : Written next s) :
      Written (node (.element name attributes) below next)
        (w ++ ('<' :: (name.toList ++ (as ++ (inTag ++ ['>']))) ++
          (inner ++ ('<' :: '/' :: (name.toList ++ (inEnd ++ ['>'])) ++ s))))

/-! ## A way to write -/

def writeAttributes : List (String × String) → List Char
  | [] => []
  | (name, value) :: attributes =>
    [' '] ++ (name.toList ++ ([] ++ '=' :: ([] ++ '"' :: (escape value.toList ++
      '"' :: writeAttributes attributes))))

/-- The forest without any blanks that are not needed. -/
def write : Forest Content → List Char
  | nil => []
  | node (.element name attributes) below next =>
    '<' :: (name.toList ++ (writeAttributes attributes ++ ([] ++ ['>']))) ++
      (below.write ++ ('<' :: '/' :: (name.toList ++ ([] ++ ['>'])) ++ next.write))
  | node (.text value) _ next => escape value.toList ++ next.write
  | node (.comment value) _ next =>
    '<' :: '!' :: '-' :: '-' :: (value.toList ++ ['-', '-', '>']) ++ next.write

theorem writtenAttributes_write (attributes : List (String × String)) :
    WrittenAttributes attributes (writeAttributes attributes) := by
  induction attributes with
  | nil => exact .nil
  | cons a attributes ih =>
    exact .cons (by simp [Spaces, isSpace]) (List.cons_ne_nil _ _) (by simp [Spaces])
      (by simp [Spaces]) (.inl rfl) ih

theorem written_write {F : Forest Content} (hF : F.Proper) : F.Written F.write := by
  have hblank : Text.Blank [] := by simp [Text.Blank]
  induction F with
  | nil => exact .nil hblank
  | node top below next ihb ihn =>
    obtain ⟨-, hbelow, -, hb, hn⟩ := hF
    cases top with
    | element name attributes =>
      exact .element (w := []) hblank (writtenAttributes_write attributes) (by simp [Spaces])
        (ihb hb) (by simp [Spaces]) (ihn hn)
    | text value =>
      rw [hbelow (by simp [Content.kind])]
      exact .text (w := []) hblank (ihn hn)
    | comment value =>
      rw [hbelow (by simp [Content.kind])]
      exact .comment (w := []) hblank (ihn hn)

end Forest

/-! ## Reading what is written -/

namespace Document

open Forest

variable {source u t : List Char}

/-- A forest behind a text, of which blanks make nothing. -/
def behindText (t : List Char) (F : Forest Content) : Forest Content :=
  if Text.Blank t then F else .node (.text (String.ofList (Text.trim t))) .nil F

theorem behindText_nil (F : Forest Content) : behindText [] F = F := by
  simp [behindText, Text.Blank]

theorem behindText_append_blank {w : List Char} (hw : Text.Blank w) (t : List Char)
    (F : Forest Content) : behindText (t ++ w) F = behindText t F := by
  have hiff : Text.Blank (t ++ w) ↔ Text.Blank t := by
    rw [← Text.trim_eq_nil_iff, Text.trim_append_blank hw, Text.trim_eq_nil_iff]
  simp only [behindText, hiff, Text.trim_append_blank hw]

theorem behindText_of_trim {value : List Char} (hne : value ≠ []) (htrim : Text.trim value = value)
    {t : List Char} (ht : Text.Blank t) (F : Forest Content) :
    behindText (t ++ value) F = .node (.text (String.ofList value)) .nil F := by
  have hvalue : Text.trim (t ++ value) = value := by rw [Text.trim_blank_append ht, htrim]
  have hblank : ¬ Text.Blank (t ++ value) := by
    rw [← Text.trim_eq_nil_iff, hvalue]
    exact hne
  rw [behindText, if_neg hblank, hvalue]

/-- Wherever it stands, the text is cut into events that write the forest. -/
def Yields (source s : List Char) (F : Forest Content) : Prop :=
  ∀ offset, ∃ es G, Spelled offset s es ∧ Reads source es G ∧ G.map Placed.content = F

theorem Yields.nil : Yields source [] .nil := fun offset => ⟨[], .nil, .nil offset, .nil, rfl⟩

theorem Yields.leaf {a s : List Char} {e : Markup.Event} {c : Content} {F : Forest Content}
    (ha : Spells a e) (hmarkup : e.isText = false) (he : Leaf e (some c)) (hF : Yields source s F) :
    Yields source (a ++ s) (.node c .nil F) := by
  intro offset
  obtain ⟨es, G, hs, hreads, hmap⟩ := hF (offset + Text.byteLength a)
  exact ⟨_, _, .cons ha (by simp [hmarkup]) hs, .leaf he hreads, by rw [Forest.map, hmap]; rfl⟩

theorem Yields.element {a b a' s content name : List Char} {c : Content} {K F : Forest Content}
    (ha : Spells a (.startTag content)) (hc : Builder.element content = .ok c)
    (hK : Yields source b K) (hname : tagName content = name) (ha' : Spells a' (.endTag name))
    (hF : Yields source s F) : Yields source (a ++ (b ++ (a' ++ s))) (.node c K F) := by
  subst hname
  intro offset
  obtain ⟨es, L, hb, hinner, hmapL⟩ := hK (offset + Text.byteLength a)
  obtain ⟨es', G, hs, hreads, hmapG⟩ :=
    hF (offset + Text.byteLength a + Text.byteLength b + Text.byteLength a')
  have hclose : Spelled (offset + Text.byteLength a + Text.byteLength b) (a' ++ s) _ :=
    .cons ha' (fun ht => by cases ht) hs
  have hbegin : Boundary (a' ++ s) := by
    obtain ⟨r, rfl⟩ := ha'.markup rfl
    exact .inr ⟨r ++ s, rfl⟩
  refine ⟨_, _, .cons ha (fun ht => by cases ht) (hb.append hclose hbegin),
    .element rfl hc hinner rfl hreads, ?_⟩
  rw [Forest.map, hmapL, hmapG]

/-- A text in front of markup is an event of its own. -/
theorem Yields.behind_text {s : List Char} {F : Forest Content} (hF : Yields source s F)
    (hs : Boundary s) (hu : '<' ∉ u) (ht : Resolves u t) :
    Yields source (u ++ s) (behindText t F) := by
  intro offset
  obtain ⟨es, G, hspelled, hreads, rfl⟩ := hF (offset + Text.byteLength u)
  by_cases hne : u = []
  · subst hne
    have hnil : t = [] := by
      have hresolve := ht.resolve_eq
      cases hresolve
      rfl
    subst hnil
    exact ⟨es, G, hspelled, hreads, (behindText_nil _).symm⟩
  · have hcut := Spelled.cons (spells_text hne hu) (fun _ => hs) hspelled
    by_cases hblank : Text.Blank t
    · refine ⟨_, G, hcut, .skip (.blank ht.resolve_eq (Text.trim_eq_nil_iff.mpr hblank)) hreads, ?_⟩
      rw [behindText, if_pos hblank]
    · refine ⟨_, _, hcut, .leaf (.text ht.resolve_eq (mt Text.trim_eq_nil_iff.mp hblank)) hreads, ?_⟩
      rw [behindText, if_neg hblank]
      rfl

theorem bracket_not_mem_append {w : List Char} (hu : '<' ∉ u) (hw : Text.Blank w) : '<' ∉ u ++ w := by
  rw [List.mem_append]
  exact not_or.mpr ⟨hu, Text.not_mem_of_blank rfl hw⟩

theorem resolves_append_blank {w : List Char} (ht : Resolves u t) (hw : Text.Blank w) :
    Resolves (u ++ w) (t ++ w) :=
  ht.append (resolves_plain (Text.not_mem_of_blank rfl hw))

/-- Blanks between a text and the markup behind it belong to the text. -/
theorem Yields.behind_blank {w s : List Char} {F : Forest Content} (hF : Yields source s F)
    (hs : Boundary s) (hu : '<' ∉ u) (ht : Resolves u t) (hw : Text.Blank w) :
    Yields source (u ++ (w ++ s)) (behindText t F) := by
  rw [← behindText_append_blank hw, ← List.append_assoc]
  exact hF.behind_text hs (bracket_not_mem_append hu hw) (resolves_append_blank ht hw)

theorem element_written {name : String} {attributes : List (String × String)} {as w : List Char}
    (h : (Content.element name attributes).Proper) (has : WrittenAttributes attributes as)
    (hw : Spaces w) :
    Builder.element (name.toList ++ (as ++ w)) = .ok (.element name attributes) := by
  obtain ⟨hname, hnames, hdistinct⟩ := h
  obtain ⟨found, hfound, hmap⟩ := attributes_written hname has hnames hdistinct hw
  refine bind_eq_ok.mpr ⟨found, hfound, ?_⟩
  rw [hmap, tagName_of_isName hname (head_attributes has hw), String.ofList_toList]
  rfl

/-- A written forest, behind a text that is read already, yields that text
and the forest. -/
theorem yields_of_written_behind {F : Forest Content} {s : List Char} (h : F.Written s)
    (hF : F.Proper) (hu : '<' ∉ u) (ht : Resolves u t) (hsep : Text.Blank t ∨ F.BeginsWithoutText) :
    Yields source (u ++ s) (behindText t F) := by
  -- Behind markup there is no such text.
  have hempty : ∀ {G s'}, Yields source ([] ++ s') (behindText [] G) → Yields source s' G :=
    fun h => by rwa [List.nil_append, behindText_nil] at h
  have hnil : Text.Blank [] := by simp [Text.Blank]
  induction h generalizing u t with
  | nil hw =>
    have hend : Yields source _ _ := .behind_blank .nil (.inl rfl) hu ht hw
    rwa [List.append_nil] at hend
  | @text value next w s hw _ ih =>
    obtain ⟨⟨hne, htrim⟩, -, hnext, -, hF⟩ := hF
    have ht' := (resolves_append_blank ht hw).append (resolves_escape value.toList)
    have hu' : '<' ∉ u ++ w ++ escape value.toList := by
      rw [List.mem_append]
      exact not_or.mpr ⟨bracket_not_mem_append hu hw, bracket_not_mem_escape _⟩
    have hyields := ih hF hu' ht' (.inr (hnext rfl))
    have hblank : Text.Blank t := hsep.resolve_right fun h => h _ rfl rfl
    rw [behindText_of_trim hne htrim (hblank.append hw), String.ofList_toList] at hyields
    rw [behindText, if_pos hblank]
    simpa only [List.append_assoc] using hyields
  | @comment value next w s hw _ ih =>
    obtain ⟨⟨hhyphens, -⟩, -, -, -, hF⟩ := hF
    have hnext := hempty (ih hF List.not_mem_nil .nil (.inl hnil))
    have hcomment := hnext.leaf (spells_comment hhyphens) rfl (.comment value.toList)
    rw [String.ofList_toList] at hcomment
    exact hcomment.behind_blank (.inr ⟨_, rfl⟩) hu ht hw
  | empty hw has htag _ ih =>
    obtain ⟨htop, -, -, -, hF⟩ := hF
    have hnext := hempty (ih hF List.not_mem_nil .nil (.inl hnil))
    have helement := hnext.leaf (spells_emptyTag htop.1 htop.2.1 has htag) rfl
      (.empty (element_written htop has htag))
    exact helement.behind_blank (.inr ⟨_, rfl⟩) hu ht hw
  | element hw has htag _ hend _ ihb ihn =>
    obtain ⟨htop, -, -, hbelow, hF⟩ := hF
    have hinner := hempty (ihb hbelow List.not_mem_nil .nil (.inl hnil))
    have hnext := hempty (ihn hF List.not_mem_nil .nil (.inl hnil))
    have hname := tagName_of_isName htop.1 (head_attributes has htag)
    have helement := hinner.element (spells_startTag htop.1 htop.2.1 has htag)
      (element_written htop has htag) hname (spells_endTag htop.1 hend) hnext
    exact helement.behind_blank (.inr ⟨_, rfl⟩) hu ht hw

variable {name : String} {attributes : List (String × String)} {below : Forest Content}

/-- What writes an element begins with a blank or a bracket, so it has no
byte order mark. -/
theorem head_of_written {s : List Char}
    (h : (Forest.node (.element name attributes) below .nil).Written s) :
    s.head? ≠ some '\ufeff' := by
  have hhead : ∀ {w rest : List Char}, Text.Blank w → (w ++ '<' :: rest).head? ≠ some '\ufeff' := by
    intro w rest hw heq
    cases w with
    | nil => cases heq
    | cons c w =>
      obtain rfl : c = '\ufeff' := by simpa using heq
      have hmark := hw '\ufeff' List.mem_cons_self
      cases hmark
  cases h with
  | empty hw => exact hhead hw
  | element hw => exact hhead hw

/-- **Writing and reading a tree.** A proper tree can be written, and every
text that writes it is a document that holds the tree and nothing else. -/
theorem parse_written (proper : (Forest.node (.element name attributes) below .nil).Proper) :
    (∃ s, (Forest.node (.element name attributes) below .nil).Written s) ∧
    ∀ s, (Forest.node (.element name attributes) below .nil).Written s →
      ∃ d, parse s = .ok d ∧ d.tops = [d.root.val] ∧
        d.forest = .node (.element name attributes) below .nil := by
  refine ⟨⟨_, written_write proper⟩, fun s written => ?_⟩
  have hyields : Yields s ([] ++ s) (behindText [] _) := yields_of_written_behind written proper
    List.not_mem_nil .nil (.inl (by simp [Text.Blank]))
  obtain ⟨es, G, hs, hreads, hmap⟩ := hyields 0
  rw [behindText_nil] at hmap
  have hscan : scan s = (es, none) := by
    rw [scan, dropMark_of_head (head_of_written written)]
    exact run_of_spelled hs (replayAll_of_reads hreads [])
  obtain ⟨d, hd, hholds, hroot, htops⟩ := exists_parse_of_element hscan hreads hmap rfl
  exact ⟨d, hd, by rw [htops, hroot], by rw [forest_of_layout hholds.nodes, hmap]⟩

/-- A tree with a reference in a value, an empty value, a text before a
bracket, a comment with a bracket and elements without children. -/
def specimen : Forest Content :=
  .node (.element "a" [("x", "1&2"), ("y", "")])
    (.node (.text "t<u") .nil (.node (.element "b" []) .nil (.node (.comment "-> c") .nil
      (.node (.element "d" []) .nil .nil)))) .nil

def specimenText : List Char :=
  "\n<a x=\"1&amp;2\"\n y = '' > t&lt;u <b/> <!---> c--> <d></d></a >\n".toList

theorem parse_specimen : specimen.Proper ∧ specimen.Written specimenText ∧
    ∃ d, parse specimenText = .ok d ∧ d.tops = [d.root.val] ∧ d.forest = specimen := by
  have newline : Text.Blank ['\n'] := by decide
  have blank : Text.Blank [' '] := by decide
  have nothing : Text.Blank [] := by decide
  have space : Spaces [' '] := by decide
  have none : Spaces [] := by decide
  have indent : Spaces ['\n', ' '] := by decide
  have proper : specimen.Proper := by decide
  have written : specimen.Written specimenText :=
    .element newline
      (.cons space (by decide) none none (.inl rfl)
        (.cons indent (by decide) space space (.inr rfl) .nil))
      space
      (.text blank <| .empty blank .nil none <| .comment blank <|
        .element blank .nil none (.nil nothing) none (.nil nothing))
      space (.nil newline)
  exact ⟨proper, written, (parse_written proper).2 specimenText written⟩

end Document

end VectorLint
