/-
What a configuration file inherits. The files that a file extends, with those
that they extend, make a tree, without end where files extend each other
(`fileAt`); a place in it says which base to go to, file after file.

A file is loaded if no branch of its tree is too long and every file of it
gives a configuration, and then all of these are merged, each behind those
that it extends. Else the load fails as the first file does that cannot be
taken, from the root on (`Unfolds`). How a text is decoded plays no part in
this (`Decoders.unfolds_load`).
-/
import VectorLint.Config.Load
import VectorLint.Proofs.Except
import VectorLint.Proofs.Rule.Merging

namespace VectorLint.Config

section

variable (decoders : Decoders) (read : String → Except IoError (List Char))

/-! ## Files and their tree -/

/-- The configuration that a file itself gives. -/
def ofFile (path : String) : Except ConfigError Config := do
  decoders.parse path (← (read path).mapError .io)

/-- A file can be read, its name has a known extension, and its text is a
configuration in that format. -/
inductive Opens (path : String) (c : Config) : Prop
  | yaml {text : List Char} : read path = .ok text →
    Path.fileExtension? path = some "yaml" ∨ Path.fileExtension? path = some "yml" →
    decoders.yaml? text = some c → Opens path c
  | json {text : List Char} : read path = .ok text → Path.fileExtension? path = some "json" →
    decoders.json text = .ok c → Opens path c

/-- What is wrong with a file at a depth: the first thing that a load looks at
and cannot take. -/
inductive Fails (bound depth : Nat) (path : String) : ConfigError → Prop
  | tooDeep : bound ≤ depth → Fails bound depth path .tooDeep
  | unreadable {e : IoError} : depth < bound → read path = .error e →
    Fails bound depth path (.io e)
  | unknownFormat {text : List Char} : depth < bound → read path = .ok text →
    Path.fileExtension? path ∉ [some "yaml", some "yml", some "json"] →
    Fails bound depth path (.unknownFormat ((Path.fileExtension? path).getD ""))
  | yaml {text : List Char} : depth < bound → read path = .ok text →
    Path.fileExtension? path = some "yaml" ∨ Path.fileExtension? path = some "yml" →
    decoders.yaml? text = none → Fails bound depth path .yaml
  | json {text : List Char} {fault : Json.Fault} : depth < bound → read path = .ok text →
    Path.fileExtension? path = some "json" → decoders.json text = .error fault →
    Fails bound depth path (.json fault)

/-- The path of a base, seen from the directory of the file that extends it. -/
def basePath (path base : String) : String :=
  Path.join (Path.directory path) base

/-- The file at a place of the tree below a file. -/
def fileAt : (path : String) → (place : List Nat) → Option String
  | path, [] => some path
  | path, i :: place => do
    let c ← (ofFile decoders read path).toOption
    let base ← c.bases[i]?
    fileAt (basePath path base) place

end

/-- Whether one place comes before another in post-order: earlier bases with
all that they extend first, and a file behind those that it extends. -/
def Sooner : (place other : List Nat) → Prop
  | [], _ => False
  | _ :: _, [] => True
  | i :: place, j :: other => i < j ∨ (i = j ∧ Sooner place other)

variable {decoders : Decoders} {read : String → Except IoError (List Char)} {path : String} {c : Config}

theorem ofFile_of_read {text : List Char} (h : read path = .ok text) :
    ofFile decoders read path = decoders.parse path text := by
  rw [ofFile, h]
  rfl

theorem ofFile_unreadable {e : IoError} (h : read path = .error e) :
    ofFile decoders read path = .error (.io e) := by
  rw [ofFile, h]
  rfl

variable {text : List Char}

theorem parse_yaml
    (h : Path.fileExtension? path = some "yaml" ∨ Path.fileExtension? path = some "yml") :
    decoders.parse path text = match decoders.yaml? text with
      | some c => .ok c
      | none => .error .yaml := by
  rcases h with h | h
  · rw [Decoders.parse, h]
    rfl
  · rw [Decoders.parse, h]
    rfl

theorem parse_json (h : Path.fileExtension? path = some "json") :
    decoders.parse path text = (decoders.json text).mapError .json := by
  unfold Decoders.parse
  simp only [h]

theorem parse_unknown (h : Path.fileExtension? path ∉ [some "yaml", some "yml", some "json"]) :
    decoders.parse path text = .error (.unknownFormat ((Path.fileExtension? path).getD "")) := by
  unfold Decoders.parse
  split <;> simp_all

/-- The extension of a file is one of those known, or it is unknown. -/
theorem extension_cases (path : String) :
    (Path.fileExtension? path = some "yaml" ∨ Path.fileExtension? path = some "yml") ∨
      Path.fileExtension? path = some "json" ∨
      Path.fileExtension? path ∉ [some "yaml", some "yml", some "json"] := by
  simp only [List.mem_cons, List.not_mem_nil, or_false, not_or]
  tauto

theorem ofFile_eq_ok_iff : ofFile decoders read path = .ok c ↔ Opens decoders read path c := by
  constructor
  · intro h
    cases hread : read path with
    | error e => simp [ofFile_unreadable hread] at h
    | ok text =>
      rw [ofFile_of_read hread] at h
      rcases extension_cases path with hyaml | hjson | hunknown
      · rw [parse_yaml hyaml] at h
        split at h
        · rename_i hc
          cases h
          exact .yaml hread hyaml hc
        · cases h
      · rw [parse_json hjson, mapError_eq_ok] at h
        exact .json hread hjson h
      · simp [parse_unknown hunknown] at h
  · rintro (⟨hread, hyaml, hc⟩ | ⟨hread, hjson, hc⟩)
    · rw [ofFile_of_read hread, parse_yaml hyaml, hc]
    · rw [ofFile_of_read hread, parse_json hjson, mapError_eq_ok, hc]

theorem fails_iff {bound depth : Nat} {e : ConfigError} :
    Fails decoders read bound depth path e ↔
      bound ≤ depth ∧ e = .tooDeep ∨ depth < bound ∧ ofFile decoders read path = .error e := by
  constructor
  · intro h
    cases h with
    | tooDeep hdepth => exact .inl ⟨hdepth, rfl⟩
    | unreadable hdepth hread => exact .inr ⟨hdepth, ofFile_unreadable hread⟩
    | unknownFormat hdepth hread hext =>
      exact .inr ⟨hdepth, by rw [ofFile_of_read hread, parse_unknown hext]⟩
    | yaml hdepth hread hext hnone =>
      exact .inr ⟨hdepth, by rw [ofFile_of_read hread, parse_yaml hext, hnone]⟩
    | json hdepth hread hext hfault =>
      exact .inr ⟨hdepth, by rw [ofFile_of_read hread, parse_json hext, hfault, Except.mapError]⟩
  · rintro (⟨hdepth, rfl⟩ | ⟨hdepth, h⟩)
    · exact .tooDeep hdepth
    · cases hread : read path with
      | error fault =>
        rw [ofFile_unreadable hread] at h
        cases h
        exact .unreadable hdepth hread
      | ok text =>
        rw [ofFile_of_read hread] at h
        rcases extension_cases path with hyaml | hjson | hunknown
        · rw [parse_yaml hyaml] at h
          split at h
          · cases h
          · rename_i hnone
            cases h
            exact .yaml hdepth hread hyaml hnone
        · rw [parse_json hjson, mapError_eq_error] at h
          obtain ⟨fault, hfault, rfl⟩ := h
          exact .json hdepth hread hjson hfault
        · rw [parse_unknown hunknown] at h
          cases h
          exact .unknownFormat hdepth hread hunknown

theorem fileAt_cons (h : ofFile decoders read path = .ok c) (i : Nat) (place : List Nat) :
    fileAt decoders read path (i :: place) =
      c.bases[i]?.bind fun base => fileAt decoders read (basePath path base) place := by
  simp only [fileAt, h]
  rfl

theorem loadWithin_succ (depth : Nat) (path : String) :
    loadWithin decoders read (depth + 1) path = do
      let own ← ofFile decoders read path
      let bases ← own.bases.mapM fun base => loadWithin decoders read depth (basePath path base)
      return (bases.foldl merge empty).merge own := by
  simp only [loadWithin, ofFile]
  cases read path <;> rfl

/-! ## When a file is loaded -/

theorem exists_loadWithin_iff (depth : Nat) (path : String) :
    (∃ c, loadWithin decoders read depth path = .ok c) ↔
      ∀ place file, fileAt decoders read path place = some file →
        place.length < depth ∧ ∃ own, ofFile decoders read file = .ok own := by
  induction depth generalizing path with
  | zero =>
    refine iff_of_false (by simp [loadWithin]) fun h => ?_
    exact absurd (h [] path rfl).1 (Nat.not_lt_zero 0)
  | succ depth ih =>
    rw [loadWithin_succ]
    simp only [bind_eq_ok]
    constructor
    · rintro ⟨c, own, hown, bases, hbases, -⟩ place file hfile
      cases place with
      | nil =>
        cases hfile
        exact ⟨Nat.succ_pos depth, own, hown⟩
      | cons i place =>
        rw [fileAt_cons hown, Option.bind_eq_some_iff] at hfile
        obtain ⟨base, hbase, hfile⟩ := hfile
        have hload := exists_mapM_ok_iff.mp ⟨bases, hbases⟩ base (List.mem_of_getElem? hbase)
        obtain ⟨hlt, hopen⟩ := (ih _).mp hload place file hfile
        exact ⟨Nat.succ_lt_succ hlt, hopen⟩
    · intro h
      obtain ⟨-, own, hown⟩ := h [] path rfl
      have hbases : ∀ base ∈ own.bases,
          ∃ c, loadWithin decoders read depth (basePath path base) = .ok c := by
        intro base hbase
        obtain ⟨i, hi⟩ := List.mem_iff_getElem?.mp hbase
        refine (ih _).mpr fun place file hfile => ?_
        obtain ⟨hlt, hopen⟩ := h (i :: place) file (by rw [fileAt_cons hown, hi]; exact hfile)
        exact ⟨Nat.lt_of_succ_lt_succ hlt, hopen⟩
      obtain ⟨bases, hbases⟩ := exists_mapM_ok_iff.mpr hbases
      exact ⟨_, own, hown, bases, hbases, rfl⟩

/-! ## What is loaded -/

/-- The configurations of files merged one behind the other. -/
def gather (owns : List Config) : Config :=
  ⟨[], (owns.map rules).foldl .merge .empty, owns.flatMap ignore⟩

theorem gather_concat (owns : List Config) (c : Config) :
    gather (owns ++ [c]) = (gather owns).merge c := by
  simp [gather, merge, List.foldl_append]

theorem foldl_merge_rules (a : RuleSettings) (all : List RuleSettings) :
    all.foldl .merge a = a.merge (all.foldl .merge .empty) := by
  induction all generalizing a with
  | nil => rfl
  | cons r all ih =>
    rw [List.foldl_cons, ih, List.foldl_cons, ih (RuleSettings.empty.merge r),
      RuleSettings.empty_merge, RuleSettings.merge_assoc]

theorem gather_append (owns more : List Config) :
    gather (owns ++ more) = (gather owns).merge (gather more) := by
  simp only [gather, merge, List.map_append, List.foldl_append, List.flatMap_append]
  rw [foldl_merge_rules]

theorem foldl_merge_gather (groups : List (List Config)) (owns : List Config) :
    (groups.map gather).foldl merge (gather owns) = gather (owns ++ groups.flatten) := by
  induction groups generalizing owns with
  | nil => simp
  | cons group groups ih =>
    rw [List.map_cons, List.foldl_cons, ← gather_append, ih, List.flatten_cons, List.append_assoc]

/-- The files of a tree down to a depth, in post-order: their places and what
they give themselves. -/
def nodes (decoders : Decoders) (read : String → Except IoError (List Char)) :
    (depth : Nat) → (path : String) → List (List Nat × Config)
  | 0, _ => []
  | depth + 1, path =>
    match ofFile decoders read path with
    | .error _ => []
    | .ok c =>
      (c.bases.zipIdx.flatMap fun (base, i) =>
        (nodes decoders read depth (basePath path base)).map (Prod.map (i :: ·) id)) ++ [([], c)]

theorem nodes_succ {depth : Nat} (h : ofFile decoders read path = .ok c) :
    nodes decoders read (depth + 1) path =
      (c.bases.zipIdx.flatMap fun (base, i) =>
        (nodes decoders read depth (basePath path base)).map (Prod.map (i :: ·) id)) ++ [([], c)] := by
  simp only [nodes, h]

theorem mem_nodes_iff {depth : Nat} {place : List Nat} {own : Config} :
    (place, own) ∈ nodes decoders read depth path ↔
      place.length < depth ∧
        ∃ file, fileAt decoders read path place = some file ∧ ofFile decoders read file = .ok own := by
  induction depth generalizing path place with
  | zero => simp [nodes]
  | succ depth ih =>
    cases hopen : ofFile decoders read path with
    | error e =>
      refine iff_of_false (by simp [nodes, hopen]) ?_
      rintro ⟨-, file, hfile, hown⟩
      cases place with
      | nil =>
        cases hfile
        simp [hopen] at hown
      | cons i place => simp [fileAt, hopen, Except.toOption] at hfile
    | ok c =>
      rw [nodes_succ hopen]
      cases place with
      | nil => simp [fileAt, hopen, eq_comm]
      | cons i place =>
        have hmem : (i :: place, own) ∈ (c.bases.zipIdx.flatMap fun (base, i) =>
            (nodes decoders read depth (basePath path base)).map (Prod.map (i :: ·) id)) ++ [([], c)] ↔
            ∃ base, c.bases[i]? = some base ∧
              (place, own) ∈ nodes decoders read depth (basePath path base) := by
          simp only [List.mem_append, List.mem_flatMap, List.mem_map, List.mem_singleton]
          constructor
          · rintro (⟨⟨base, j⟩, hbase, ⟨p, o⟩, hnode, heq⟩ | heq)
            · cases heq
              exact ⟨base, List.mem_zipIdx_iff_getElem?.mp hbase, hnode⟩
            · cases heq
          · rintro ⟨base, hbase, hnode⟩
            exact .inl ⟨(base, i), List.mem_zipIdx_iff_getElem?.mpr hbase, _, hnode, rfl⟩
        rw [hmem, fileAt_cons hopen, List.length_cons, Nat.add_lt_add_iff_right]
        cases c.bases[i]? with
        | none => simp
        | some base => simp [ih]

theorem pairwise_nodes (depth : Nat) (path : String) :
    (nodes decoders read depth path).Pairwise fun a b => Sooner a.1 b.1 := by
  induction depth generalizing path with
  | zero => exact .nil
  | succ depth ih =>
    cases hopen : ofFile decoders read path with
    | error e => simp [nodes, hopen]
    | ok c =>
      have hindex : c.bases.zipIdx.Pairwise fun a b => a.2 < b.2 :=
        List.pairwise_map.mp (List.zipIdx_map_snd 0 c.bases ▸ List.pairwise_lt_range' 1)
      rw [nodes_succ hopen, List.pairwise_append, List.pairwise_flatMap]
      refine ⟨⟨fun (base, i) _ => ?_, hindex.imp fun hlt => ?_⟩, List.pairwise_singleton _ _, ?_⟩
      · exact List.pairwise_map.mpr ((ih _).imp fun hsooner => .inr ⟨rfl, hsooner⟩)
      · intro x hx y hy
        obtain ⟨a, -, rfl⟩ := List.mem_map.mp hx
        obtain ⟨b, -, rfl⟩ := List.mem_map.mp hy
        exact .inl hlt
      · intro x hx y hy
        obtain ⟨⟨base, i⟩, -, hx⟩ := List.mem_flatMap.mp hx
        obtain ⟨a, -, rfl⟩ := List.mem_map.mp hx
        rw [List.mem_singleton.mp hy]
        trivial

theorem loadWithin_eq_gather {depth : Nat} (h : loadWithin decoders read depth path = .ok c) :
    c = gather ((nodes decoders read depth path).map Prod.snd) := by
  induction depth generalizing path c with
  | zero => simp [loadWithin] at h
  | succ depth ih =>
    rw [loadWithin_succ] at h
    simp only [bind_eq_ok] at h
    obtain ⟨own, hown, bases, hbases, hc⟩ := h
    cases hc
    let group (base : String) : List Config :=
      (nodes decoders read depth (basePath path base)).map Prod.snd
    have hgathered : (own.bases.map group).map gather = bases := by
      rw [List.map_map, ← List.forall₂_eq_eq_eq, List.forall₂_map_left_iff]
      exact (mapM_eq_ok_iff.mp hbases).imp fun base b hb => (ih hb).symm
    have hbelow : (own.bases.zipIdx.flatMap fun (base, i) =>
        (nodes decoders read depth (basePath path base)).map (Prod.map (i :: ·) id)).map Prod.snd =
        (own.bases.map group).flatten := by
      have hfst : own.bases.zipIdx.map (group ∘ Prod.fst) = own.bases.map group := by
        rw [← List.map_map, List.zipIdx_map_fst]
      rw [← hfst, List.map_flatMap, List.flatMap_def]
      simp [group, Function.comp_def]
    rw [nodes_succ hown, List.map_append, List.map_singleton, gather_concat, hbelow, ← hgathered]
    exact congrArg (merge · own) (foldl_merge_gather (own.bases.map group) [])

/-! ## Why a file is not loaded -/

theorem fails_succ_iff {bound depth : Nat} {e : ConfigError} :
    Fails decoders read (bound + 1) (depth + 1) path e ↔ Fails decoders read bound depth path e := by
  simp [fails_iff]

theorem not_fails_of_load {depth : Nat} {place : List Nat} {file : String} {e : ConfigError}
    (h : ∃ c, loadWithin decoders read depth path = .ok c)
    (hfile : fileAt decoders read path place = some file) :
    ¬ Fails decoders read depth place.length file e := by
  obtain ⟨hlt, own, hown⟩ := (exists_loadWithin_iff depth path).mp h place file hfile
  rw [fails_iff]
  rintro (⟨hle, -⟩ | ⟨-, herror⟩)
  · exact absurd hlt (Nat.not_lt.mpr hle)
  · simp [hown] at herror

theorem exists_fails_of_loadWithin {depth : Nat} {e : ConfigError}
    (h : loadWithin decoders read depth path = .error e) :
    ∃ place file, fileAt decoders read path place = some file ∧
      Fails decoders read depth place.length file e ∧
      ∀ earlier < place, ∀ file e, fileAt decoders read path earlier = some file →
        ¬ Fails decoders read depth earlier.length file e := by
  induction depth generalizing path e with
  | zero =>
    cases h
    exact ⟨[], path, rfl, .tooDeep (Nat.le_refl 0), fun earlier hlt => absurd hlt (List.not_lt_nil _)⟩
  | succ depth ih =>
    rw [loadWithin_succ, bind_eq_error] at h
    rcases h with hopen | ⟨c, hopen, h⟩
    · exact ⟨[], path, rfl, fails_iff.mpr (.inr ⟨Nat.succ_pos depth, hopen⟩),
        fun earlier hlt => absurd hlt (List.not_lt_nil _)⟩
    rw [bind_eq_error] at h
    rcases h with hbases | ⟨bases, -, h⟩
    · obtain ⟨before, base, after, hsplit, hbase, hbefore⟩ := exists_of_mapM_error hbases
      obtain ⟨place, file, hfile, hfails, hfirst⟩ := ih hbase
      have hat : c.bases[before.length]? = some base := by simp [hsplit]
      refine ⟨before.length :: place, file, ?_, fails_succ_iff.mpr hfails, ?_⟩
      · rw [fileAt_cons hopen, hat]
        exact hfile
      · intro earlier hlt file e hfile
        cases earlier with
        | nil =>
          cases hfile
          simp [fails_iff, hopen]
        | cons i earlier =>
          rw [fileAt_cons hopen, Option.bind_eq_some_iff] at hfile
          obtain ⟨sibling, hsibling, hfile⟩ := hfile
          rw [List.length_cons, fails_succ_iff]
          rcases List.cons_lt_cons_iff.mp hlt with hi | ⟨rfl, hbelow⟩
          · rw [hsplit, List.getElem?_append_left hi] at hsibling
            exact not_fails_of_load (hbefore sibling (List.mem_of_getElem? hsibling)) hfile
          · cases hat.symm.trans hsibling
            exact hfirst earlier hbelow file e hfile
    · cases h

/-- What a load of a file comes to, by the tree below the file. -/
structure Unfolds (decoders : Decoders) (read : String → Except IoError (List Char))
    (path : String) (loaded : Except ConfigError Config) : Prop where
  /-- No branch goes down further than nine bases, and every file opens. -/
  loads : (∃ c, loaded = .ok c) ↔ ∀ place file, fileAt decoders read path place = some file →
    place.length ≤ 9 ∧ ∃ own, Opens decoders read file own
  /-- The files are merged in post-order. -/
  merged : ∀ c, loaded = .ok c → ∃ nodes : List (List Nat × Config),
    nodes.Pairwise (fun a b => Sooner a.1 b.1) ∧
    (∀ place own, (place, own) ∈ nodes ↔
      ∃ file, fileAt decoders read path place = some file ∧ Opens decoders read file own) ∧
    c.bases = [] ∧ c.rules = (nodes.map (·.2.rules)).foldl .merge .empty ∧
    c.ignore = nodes.flatMap (·.2.ignore)
  /-- The fault is that of the first file in pre-order that has one. -/
  fails : ∀ e, loaded = .error e → ∃ place file, fileAt decoders read path place = some file ∧
    Fails decoders read maxDepth place.length file e ∧
    ∀ earlier < place, ∀ file e, fileAt decoders read path earlier = some file →
      ¬ Fails decoders read maxDepth earlier.length file e

/-- **A file is loaded with all that its tree holds, or fails as the first file
of the tree that cannot be taken**, whatever the decoders. -/
theorem Decoders.unfolds_load (decoders : Decoders) (read : String → Except IoError (List Char))
    (path : String) : Unfolds decoders read path (decoders.load read path) := by
  have hloads : (∃ c, decoders.load read path = .ok c) ↔
      ∀ place file, fileAt decoders read path place = some file →
        place.length < maxDepth ∧ ∃ own, ofFile decoders read file = .ok own :=
    exists_loadWithin_iff maxDepth path
  constructor
  case loads => simpa only [← ofFile_eq_ok_iff, maxDepth, Nat.lt_succ_iff] using hloads
  case merged =>
    intro c hc
    refine ⟨nodes decoders read maxDepth path, pairwise_nodes maxDepth path, ?_, ?_⟩
    · intro place own
      simp only [mem_nodes_iff, ← ofFile_eq_ok_iff]
      refine ⟨And.right, fun h => ⟨?_, h⟩⟩
      obtain ⟨file, hfile, -⟩ := h
      exact (hloads.mp ⟨c, hc⟩ place file hfile).1
    · rw [loadWithin_eq_gather hc]
      simp [gather, List.map_map, Function.comp_def, List.flatMap_map]
  case fails => exact fun e => exists_fails_of_loadWithin

/-- What is loaded from files in YAML and JSON. -/
theorem load_unfolds (read : String → Except IoError (List Char)) (path : String) :
    Unfolds .builtin read path (load read path) :=
  Decoders.builtin.unfolds_load read path

/-- Files of which the first extends two others and one of these the other,
and one that extends itself. -/
def sharedFiles : String → Except IoError (List Char)
  | "a.json" => .ok "[[\"b.json\", \"c.json\"], \x7b\"elm\": false\x7d, [\"a\"]]".toList
  | "b.json" => .ok "[[\"c.json\"], \x7b\"elm\": true\x7d, [\"b\"]]".toList
  | "c.json" => .ok "[[], \x7b\"attr\": true\x7d, [\"c\"]]".toList
  | "loop.json" => .ok "[[\"loop.json\"]]".toList
  | _ => .error .notFound

/-- The files are merged each time that they are extended, and a file that
extends itself is too deep. -/
theorem load_sharedFiles :
    (∃ c, load sharedFiles "a.json" = .ok c ∧ c.ignore = ["c", "b", "c", "a"] ∧
      c.rules.names = ["attr", "elm"] ∧
      ∃ nodes : List (List Nat × Config), nodes.Pairwise (fun a b => Sooner a.1 b.1) ∧
        c.rules = (nodes.map (·.2.rules)).foldl .merge .empty ∧ c.ignore = nodes.flatMap (·.2.ignore)) ∧
    load sharedFiles "loop.json" = .error .tooDeep ∧
      ∃ place file, fileAt .builtin sharedFiles "loop.json" place = some file ∧
        Fails .builtin sharedFiles maxDepth place.length file .tooDeep := by
  have hshared : (load sharedFiles "a.json").toOption.map (fun c => (c.ignore, c.rules.names)) =
      some (["c", "b", "c", "a"], ["attr", "elm"]) := by decide +kernel
  have hloop : load sharedFiles "loop.json" = .error .tooDeep := by rfl
  have hmerged := (load_unfolds sharedFiles "a.json").merged
  have hfault := (load_unfolds sharedFiles "loop.json").fails
  refine ⟨?_, hloop, ?_⟩
  · cases hload : load sharedFiles "a.json" with
    | error e => simp [hload, Except.toOption] at hshared
    | ok c =>
      simp only [hload, Except.toOption, Option.map_some, Option.some.injEq, Prod.mk.injEq] at hshared
      obtain ⟨nodes, hsorted, -, -, hrules, hignore⟩ := hmerged c hload
      exact ⟨c, rfl, hshared.1, hshared.2, nodes, hsorted, hrules, hignore⟩
  · obtain ⟨place, file, hfile, hfails, -⟩ := hfault _ hloop
    exact ⟨place, file, hfile, hfails⟩

end VectorLint.Config
