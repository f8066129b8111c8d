import Mathlib.Order.Bounds.Basic
import PromptGraph.Proofs.Ascending
import PromptGraph.Proofs.Catalog
import PromptGraph.Proofs.Declarations
import PromptGraph.Proofs.Documents

/-!
Which texts are catalogs, what such a catalog holds, and what is said of the others.

A document is a map, so names cannot clash in it; what is left to be wrong with a type is a blank
name, and a place that two outputs share. The outputs are sorted by their places and stay in the
order of names where places agree. So the scan for a repeated place meets the smallest shared place
first, and there the two smallest names.
-/

namespace PromptGraph

open Json

/-- In a list that is sorted by the numbers of keys, the first repetition is of the smallest key
that is repeated, and of the elements with that key it meets the first two. -/
lemma FirstRepetition.sorted {α κ : Type} {key : α → κ} {R : α → α → Prop} {xs : List α}
    {first again : α} (h : FirstRepetition key xs first again) (number : κ → Nat)
    (hsorted : xs.Pairwise (InOrder (fun x => number (key x)) R)) :
    R first again ∧
    (∀ x ∈ xs, key x = key again → x = first ∨ x = again ∨ R again x) ∧
    (∀ x ∈ xs, ∀ y ∈ xs, key x = key y → number (key x) < number (key again) → x = y) := by
  obtain ⟨before, after, rfl, hnodup, hfirst, hkey⟩ := h
  obtain ⟨-, hagain, hacross⟩ := List.pairwise_append.1 hsorted
  have hafter := (List.pairwise_cons.1 hagain).1
  refine ⟨?_, fun x hx heq => ?_, fun x hx y hy heq hlt => ?_⟩
  · rcases hacross first hfirst again List.mem_cons_self with hlt | ⟨-, hR⟩
    · exact absurd hlt (by simp [hkey])
    · exact hR
  · rcases List.mem_append.1 hx with hx | hx
    · exact .inl (List.inj_on_of_nodup_map hnodup hx hfirst (heq.trans hkey.symm))
    · refine .inr ((List.mem_cons.1 hx).imp_right fun hx => ?_)
      rcases hafter x hx with hlt | ⟨-, hR⟩
      · exact absurd hlt (by simp [heq])
      · exact hR
  · -- what has a smaller number comes before, where all keys are different
    have hbefore : ∀ z ∈ before ++ again :: after, number (key z) < number (key again) →
        z ∈ before := by
      intro z hz hlt
      refine (List.mem_append.1 hz).resolve_right fun hz => ?_
      rcases List.mem_cons.1 hz with rfl | hz
      · exact Nat.lt_irrefl _ hlt
      · rcases hafter z hz with hgt | ⟨heq, -⟩
        · exact absurd hlt (Nat.lt_asymm hgt)
        · exact absurd heq (Nat.ne_of_gt hlt)
    exact List.inj_on_of_nodup_map hnodup (hbefore x hx hlt) (hbefore y hy (heq ▸ hlt)) heq

/-! ### One type -/

namespace NodeDocument

variable {typeName : String} {doc : NodeDocument} {index index' : UInt32}
  {first second first' second' : String} {e : DefinitionError}

/-- The output of that name has that place. -/
def Puts (doc : NodeDocument) (name : String) (index : UInt32) : Prop :=
  ∃ spec, doc.outputs[name]? = some spec ∧ spec.index = index

/-- Two outputs have that place. -/
def Shares (doc : NodeDocument) (index : UInt32) : Prop :=
  ∃ a b, a ≠ b ∧ doc.Puts a index ∧ doc.Puts b index

/-- The smallest place that two outputs have, and the two smallest names at that place. -/
structure FirstShared (doc : NodeDocument) (index : UInt32) (first second : String) : Prop where
  index_least : IsLeast {i | doc.Shares i} index
  first_least : IsLeast {name | doc.Puts name index} first
  second_least : IsLeast {name | doc.Puts name index ∧ name ≠ first} second

lemma FirstShared.unique (h : doc.FirstShared index first second)
    (h' : doc.FirstShared index' first' second') :
    index = index' ∧ first = first' ∧ second = second' := by
  obtain rfl := UInt32.le_antisymm (h.index_least.2 h'.index_least.1)
    (h'.index_least.2 h.index_least.1)
  obtain rfl := h.first_least.unique h'.first_least
  exact ⟨rfl, rfl, h.second_least.unique h'.second_least⟩

/-- A type that makes a definition: its name has a character that is not white space, and no two of
its outputs have one place. -/
structure Sound (typeName : String) (doc : NodeDocument) : Prop where
  named : ∃ c ∈ typeName.toList, Blank.isSpace c = false
  unshared : ∀ index, ¬ doc.Shares index

/-- What is wrong with a type that makes none: a blank name before a shared place. -/
inductive Offends (typeName : String) (doc : NodeDocument) : DefinitionError → Prop
  | blank (hname : ∀ c ∈ typeName.toList, Blank.isSpace c = true) :
      Offends typeName doc .emptyTypeName
  | shared {index : UInt32} {first second : String}
      (hname : ∃ c ∈ typeName.toList, Blank.isSpace c = false)
      (hshared : doc.FirstShared index first second) :
      Offends typeName doc (.duplicateOutputIndex typeName index first second)

lemma mem_orderedOutputs {o : String × OutputSpec} :
    o ∈ doc.orderedOutputs ↔ doc.outputs[o.1]? = some o.2 := by
  rw [orderedOutputs, (sortOn_perm _ _).mem_iff, Std.ExtTreeMap.mem_toList_iff_getElem?_eq_some]

lemma puts_iff {name : String} :
    doc.Puts name index ↔ ∃ o ∈ doc.orderedOutputs, o.1 = name ∧ o.2.index = index := by
  simp only [mem_orderedOutputs, Prod.exists]
  constructor
  · rintro ⟨spec, hspec, hindex⟩
    exact ⟨name, spec, hspec, rfl, hindex⟩
  · rintro ⟨_, spec, hspec, rfl, hindex⟩
    exact ⟨spec, hspec, hindex⟩

/-- By places, and by names where places agree. -/
lemma ordered_orderedOutputs (doc : NodeDocument) : doc.orderedOutputs.Pairwise
    (InOrder (fun o => o.2.index.toNat) fun o o' => o.1 < o'.1) :=
  pairwise_inOrder_sortOn _ (NameMap.ascending_toList doc.outputs)

lemma nodup_inputs (doc : NodeDocument) : (doc.inputs.toList.map Prod.fst).Nodup :=
  List.pairwise_map.2 ((NameMap.ascending_toList doc.inputs).imp ne_of_lt)

lemma nodup_orderedOutputs (doc : NodeDocument) : (doc.orderedOutputs.map Prod.fst).Nodup :=
  ((sortOn_perm _ _).map Prod.fst).nodup_iff.2
    (List.pairwise_map.2 ((NameMap.ascending_toList doc.outputs).imp ne_of_lt))

/-- The scan of the sorted outputs meets the smallest shared place and its smallest names first. -/
lemma firstShared_of_firstRepetition {o o' : String × OutputSpec}
    (h : FirstRepetition (fun o => o.2.index) doc.orderedOutputs o o') :
    doc.FirstShared o'.2.index o.1 o'.1 := by
  obtain ⟨hlt, hplace, hsmaller⟩ := h.sorted UInt32.toNat doc.ordered_orderedOutputs
  obtain ⟨ho, ho', hindex⟩ := h.mem
  have hputs : doc.Puts o.1 o'.2.index := puts_iff.2 ⟨o, ho, rfl, hindex⟩
  have hputs' : doc.Puts o'.1 o'.2.index := puts_iff.2 ⟨o', ho', rfl, rfl⟩
  refine ⟨⟨⟨o.1, o'.1, hlt.ne, hputs, hputs'⟩, fun i ⟨a, b, hab, ha, hb⟩ => ?_⟩,
    ⟨hputs, fun name hname => ?_⟩, ⟨⟨hputs', hlt.ne'⟩, fun name ⟨hname, hne⟩ => ?_⟩⟩
  · obtain ⟨x, hx, rfl, rfl⟩ := puts_iff.1 ha
    obtain ⟨y, hy, rfl, hxy⟩ := puts_iff.1 hb
    by_contra hle
    have hsame := hsmaller x hx y hy hxy.symm (by simpa [UInt32.le_iff_toNat_le] using hle)
    exact hab (congrArg Prod.fst hsame)
  · obtain ⟨x, hx, rfl, hxi⟩ := puts_iff.1 hname
    obtain rfl | rfl | hlt' := hplace x hx hxi
    · exact le_rfl
    · exact hlt.le
    · exact (hlt.trans hlt').le
  · obtain ⟨x, hx, rfl, hxi⟩ := puts_iff.1 hname
    obtain rfl | rfl | hlt' := hplace x hx hxi
    · exact absurd rfl hne
    · exact le_rfl
    · exact hlt'.le

lemma exists_firstRepetition (h : doc.Shares index) :
    ∃ o o', FirstRepetition (fun o => o.2.index) doc.orderedOutputs o o' := by
  obtain ⟨a, b, hab, ha, hb⟩ := h
  obtain ⟨x, hx, rfl, hxi⟩ := puts_iff.1 ha
  obtain ⟨y, hy, rfl, hyi⟩ := puts_iff.1 hb
  cases hclash : clash? (fun o => o.2.index) doc.orderedOutputs with
  | some pair => exact ⟨pair.1, pair.2, clash?_eq_some_iff.1 hclash⟩
  | none =>
    have hxy := List.inj_on_of_nodup_map (clash?_eq_none_iff.1 hclash) hx hy (hxi.trans hyi.symm)
    exact absurd (congrArg Prod.fst hxy) hab

/-- The checks that can fail are those of the name and of the places. -/
lemma build_eq_error_iff : doc.build typeName = .error e ↔ doc.Offends typeName e := by
  rw [build, NodeDefinition.build_eq_error_iff]
  constructor
  · rintro ((hname | ⟨-, hagain⟩ | ⟨-, -, hagain⟩) | ⟨hwell, hagain⟩)
    · exact .blank hname
    · exact absurd doc.nodup_inputs hagain.not_nodup
    · exact absurd doc.nodup_orderedOutputs hagain.not_nodup
    · exact .shared hwell.named (firstShared_of_firstRepetition hagain)
  · rintro (hname | ⟨hname, hshared⟩)
    · exact .signature (.blank hname)
    · obtain ⟨o, o', hagain⟩ := exists_firstRepetition hshared.index_least.1
      obtain ⟨rfl, rfl, rfl⟩ := hshared.unique (firstShared_of_firstRepetition hagain)
      exact .index ⟨hname, doc.nodup_inputs, doc.nodup_orderedOutputs⟩ hagain

lemma exists_offends_iff : (∃ e, doc.Offends typeName e) ↔ ¬ doc.Sound typeName := by
  constructor
  · rintro ⟨_, hname | ⟨-, hshared⟩⟩ ⟨⟨c, hc, hspace⟩, hunshared⟩
    · simp [hname c hc] at hspace
    · exact hunshared _ hshared.index_least.1
  · intro hsound
    by_cases hname : ∃ c ∈ typeName.toList, Blank.isSpace c = false
    · obtain ⟨index, hshared⟩ : ∃ index, doc.Shares index := by
        by_contra hnone
        exact hsound ⟨hname, not_exists.1 hnone⟩
      obtain ⟨o, o', hagain⟩ := exists_firstRepetition hshared
      exact ⟨_, .shared hname (firstShared_of_firstRepetition hagain)⟩
    · exact ⟨_, .blank (by simpa using hname)⟩

end NodeDocument

/-- A definition that declares what a document says, the inputs in the order of their names and the
outputs in the order of their places. -/
structure NodeDefinition.Declares (d : NodeDefinition) (doc : NodeDocument) : Prop where
  inputs_ascending : d.inputs.Pairwise fun i i' => i.1 < i'.1
  mem_inputs : ∀ name spec, (name, spec) ∈ d.inputs ↔ doc.inputs[name]? = some spec
  outputs_ascending : d.outputs.Pairwise fun o o' => o.2.index < o'.2.index
  mem_outputs : ∀ name spec, (name, spec) ∈ d.outputs ↔ doc.outputs[name]? = some spec

lemma NodeDocument.declares_of_build {typeName : String} {doc : NodeDocument} {d : NodeDefinition}
    (h : doc.build typeName = .ok d) : d.typeName = typeName ∧ d.Declares doc := by
  obtain ⟨htypeName, hinputs, houtputs⟩ := NodeDefinition.build_eq_ok h
  refine ⟨htypeName, ?_, fun name spec => ?_, ?_, fun name spec => ?_⟩
  · rw [hinputs]
    exact NameMap.ascending_toList doc.inputs
  · rw [hinputs, Std.ExtTreeMap.mem_toList_iff_getElem?_eq_some]
  · have hindexes := List.pairwise_map.1 d.indexes_nodup
    rw [houtputs] at hindexes ⊢
    refine (doc.ordered_orderedOutputs.and hindexes).imp fun {o o'} ⟨horder, hne⟩ => ?_
    rcases horder with hlt | ⟨heq, -⟩
    · exact UInt32.lt_iff_toNat_lt.2 hlt
    · exact absurd (UInt32.toNat_inj.1 heq) hne
  · rw [houtputs, NodeDocument.mem_orderedOutputs]

/-! ### All types -/

namespace Catalog

variable {c : Catalog} {types : NameMap NodeDocument} {text : String} {e : DefinitionError}

lemma Consistent.exists_extended (hc : c.Consistent) {d : Definition}
    (hnew : ¬ c.Lists d.typeName) : ∃ c', c.extended d = .ok c' := by
  obtain ⟨-, c', hregister, -⟩ | ⟨hlists, -⟩ := hc.register_cases d
  · exact ⟨c', by rw [Catalog.extended, hregister]⟩
  · exact absurd hlists hnew

/-- Types with new and distinct names are registered up to the first that makes no definition. -/
lemma Consistent.fault?_foldlM (hc : c.Consistent) {types : List (String × NodeDocument)}
    (hascending : types.Pairwise fun t t' => t.1 < t'.1) (hnew : ∀ t ∈ types, ¬ c.Lists t.1) :
    fault? (types.foldlM (fun c (typeName, doc) => do
      let d ← doc.build typeName
      c.extended (.node d)) c) = types.findSome? fun t => fault? (t.2.build t.1) := by
  induction types generalizing c with
  | nil => rfl
  | cons type types ih =>
    obtain ⟨typeName, doc⟩ := type
    obtain ⟨hfirst, hrest⟩ := List.pairwise_cons.1 hascending
    rw [List.forall_mem_cons] at hnew
    rw [List.foldlM_cons, List.findSome?_cons]
    dsimp only
    cases hbuild : doc.build typeName with
    | error e => rfl
    | ok d =>
      obtain ⟨rfl, -⟩ := NodeDocument.declares_of_build hbuild
      obtain ⟨c', hextended⟩ := hc.exists_extended (d := .node d) hnew.1
      obtain ⟨hc', hlist⟩ := hc.extended hextended
      have hnew' : ∀ t ∈ types, ¬ c'.Lists t.1 := by
        rintro t ht ⟨d', hd', hname⟩
        rw [hlist, List.mem_append, List.mem_singleton] at hd'
        rcases hd' with hd' | rfl
        · exact hnew.2 t ht ⟨d', hd', hname⟩
        · exact (hfirst t ht).ne hname
      change fault? (c.extended (.node d) >>= _) = _
      rw [hextended]
      exact ih hc' hrest hnew'

lemma fault?_ofDocument (types : NameMap NodeDocument) :
    fault? (ofDocument types) = types.toList.findSome? fun t => fault? (t.2.build t.1) :=
  consistent_empty.fault?_foldlM (NameMap.ascending_toList types) (by simp [Lists, toList, empty])

/-- The first type that makes no definition is reported. -/
lemma fault?_build_eq_some_iff (t : String × NodeDocument) (e : DefinitionError) :
    fault? (t.2.build t.1) = some e ↔ t.2.Offends t.1 e := by
  rw [fault?_eq_some_iff, NodeDocument.build_eq_error_iff]

lemma exists_ofDocument_iff :
    (∃ c, ofDocument types = .ok c) ↔
      ∀ (name : String) (doc : NodeDocument), types[name]? = some doc → doc.Sound name := by
  rw [← fault?_eq_none_iff, fault?_ofDocument, NameMap.findSome?_toList_eq_none_iff
    (R := fun name doc => doc.Offends name) fault?_build_eq_some_iff]
  simp only [← not_exists, NodeDocument.exists_offends_iff, not_not]

/-- The smallest name with which something is wrong is reported. -/
lemma ofDocument_eq_error_iff : ofDocument types = .error e ↔
    ∃ (name : String) (doc : NodeDocument), types[name]? = some doc ∧ doc.Offends name e ∧
      IsLeast {n | ∃ doc : NodeDocument, types[n]? = some doc ∧ ¬ doc.Sound n} name := by
  rw [← fault?_eq_some_iff, fault?_ofDocument, NameMap.findSome?_toList_eq_some_iff
    (R := fun name doc => doc.Offends name) fault?_build_eq_some_iff]
  simp only [NodeDocument.exists_offends_iff]

/-- A catalog of definitions in the order of their names, one for each type, that are found under
their names. -/
structure Holds (c : Catalog) (types : NameMap NodeDocument) (ds : List NodeDefinition) :
    Prop where
  listed : c.toList = ds.map .node
  ascending : ds.Pairwise fun d d' => d.typeName < d'.typeName
  complete : ∀ name, name ∈ types ↔ ∃ d ∈ ds, d.typeName = name
  declared : ∀ d ∈ ds, ∃ doc, types[d.typeName]? = some doc ∧ d.Declares doc
  found : ∀ name d, c.find? name = some d ↔ d ∈ c.toList ∧ d.typeName = name

lemma exists_nodes_of_builds {ts : List (String × NodeDocument)} {l : List Definition}
    (h : List.Forall₂ Builds ts l) : ∃ ds : List NodeDefinition, l = ds.map .node ∧
      List.Forall₂ (fun t d => t.2.build t.1 = .ok d) ts ds := by
  induction h with
  | nil => exact ⟨[], rfl, .nil⟩
  | cons hbuilds _ ih =>
    obtain ⟨d, hd, rfl⟩ := hbuilds
    obtain ⟨ds, rfl, hds⟩ := ih
    exact ⟨d :: ds, rfl, .cons hd hds⟩

lemma exists_holds_of_ofDocument (h : ofDocument types = .ok c) : ∃ ds, c.Holds types ds := by
  obtain ⟨hc, l, hl, hlist⟩ := consistent_empty.foldlM_extended types.toList h
  obtain ⟨ds, rfl, hds⟩ := exists_nodes_of_builds hl
  have hnames : types.toList.map Prod.fst = ds.map (·.typeName) := by
    rw [← List.forall₂_eq_eq_eq, List.forall₂_map_left_iff, List.forall₂_map_right_iff]
    exact hds.imp fun t d hd => (NodeDocument.declares_of_build hd).1.symm
  refine ⟨ds, by simpa [toList, empty] using hlist, ?_, fun name => ?_, fun d hd => ?_,
    fun name d => hc.find?_eq_some_iff⟩
  · have hascending := List.pairwise_map.2 (NameMap.ascending_toList types)
    rw [hnames] at hascending
    exact List.pairwise_map.1 hascending
  · rw [← Std.ExtTreeMap.mem_keys, ← Std.ExtTreeMap.map_fst_toList_eq_keys, hnames, List.mem_map]
  · obtain ⟨t, ht, hbuild⟩ := exists_of_forall₂ (List.Forall₂.flip hds) d hd
    obtain ⟨htypeName, hdeclares⟩ := NodeDocument.declares_of_build hbuild
    exact ⟨t.2, htypeName ▸ Std.ExtTreeMap.mem_toList_iff_getElem?_eq_some.1 ht, hdeclares⟩

/-- **Texts of catalogs.** Take a text that is a map from type names to inputs and outputs by name;
of the members with one name the last counts. It is a catalog exactly if no name is blank and no two
outputs of a type have one place. The catalog then holds one definition of a node for each name, in
the order of names, whose inputs are in the order of their names and its outputs in the order of
their places, as they are written. Otherwise the smallest name with which something is wrong is
reported: that it is blank, or else the smallest shared place with the two smallest names there.
Names never clash, and the order of the members in the text does not matter. -/
theorem read_canonically (h : readDocument.ofText text = .ok types) :
    (∃ members, (Reader.members NodeDocument.record.read).ofText text = .ok members ∧
      ∀ name doc, types[name]? = some doc ↔ (name, doc) ∈ lastOfEach members) ∧
    ((∃ c, ofText text = .ok c) ↔
      ∀ (name : String) (doc : NodeDocument), types[name]? = some doc → doc.Sound name) ∧
    (∀ c, ofText text = .ok c → ∃ ds, c.Holds types ds) ∧
    (∀ e, ofText text = .error e ↔
      ∃ (name : String) (doc : NodeDocument), types[name]? = some doc ∧ doc.Offends name e ∧
        IsLeast {n | ∃ doc : NodeDocument, types[n]? = some doc ∧ ¬ doc.Sound n} name) ∧
    (∀ typeName name, ofText text ≠ .error (.duplicateInput typeName name) ∧
      ofText text ≠ .error (.duplicateOutput typeName name) ∧
      ofText text ≠ .error (.duplicateDefinition typeName)) ∧
    (∀ text', Rearranged text text' → ofText text' = ofText text) := by
  have hdocument {text : String} (h : readDocument.ofText text = .ok types) :
      ofText text = ofDocument types := by rw [ofText, h]
  have herror (e : DefinitionError) (he : ofDocument types = .error e) :
      ∃ name doc, NodeDocument.Offends name doc e := by
    obtain ⟨name, doc, -, hoffends, -⟩ := ofDocument_eq_error_iff.1 he
    exact ⟨name, doc, hoffends⟩
  rw [hdocument h]
  refine ⟨Reader.exists_members_of_ofText h, exists_ofDocument_iff,
    fun c hc => exists_holds_of_ofDocument hc, fun e => ofDocument_eq_error_iff,
    fun typeName name => ⟨fun he => ?_, fun he => ?_, fun he => ?_⟩, fun text' htext => ?_⟩
  · obtain ⟨_, _, ⟨⟩⟩ := herror _ he
  · obtain ⟨_, _, ⟨⟩⟩ := herror _ he
  · obtain ⟨_, _, ⟨⟩⟩ := herror _ he
  · exact hdocument (steady_readDocument.ofText htext h)

/-- The two types in the other order. -/
def twoTypesTurned : String :=
  "\x7b\"Relay\":\x7b\x7d,\"Sink\":\x7b\"inputs\":\x7b\"in\":\x7b\"kind\":\"image\"\x7d\x7d\x7d\x7d"

lemma twoTypes_rearranged : Rearranged twoTypes twoTypesTurned := by
  refine ⟨?_, by cbv⟩
  cbv
  refine .object (.trans (.swap_of_ne (k := "Sink") (l := "Relay") rfl rfl (by decide)) ?_)
  refine .cons ⟨⟨_, rfl⟩, ⟨_, rfl⟩, rfl⟩ (.object .nil) <|
    .cons ⟨⟨_, rfl⟩, ⟨_, rfl⟩, rfl⟩ (.object ?_) .nil
  refine .cons ⟨⟨_, rfl⟩, ⟨_, rfl⟩, rfl⟩ (.object ?_) .nil
  refine .cons ⟨⟨_, rfl⟩, ⟨_, rfl⟩, rfl⟩ (.object ?_) .nil
  exact .cons ⟨⟨_, rfl⟩, ⟨_, rfl⟩, rfl⟩ (.text ⟨⟨_, rfl⟩, ⟨_, rfl⟩, rfl⟩) .nil

/-- A type with two shared places, the smaller of which comes last in the text. -/
def sharedPlaces : String :=
  "\x7b\"Split\":\x7b\"outputs\":\x7b\"a\":[\"image\",1],\"b\":[\"image\",1]," ++
    "\"d\":[\"image\",0],\"c\":[\"image\",0]\x7d\x7d,\"\u2003\":\x7b\x7d\x7d"

theorem twoTypes_read_canonically :
    (∃ types c ds, readDocument.ofText twoTypes = .ok types ∧ ofText twoTypes = .ok c ∧
      c.Holds types ds ∧ ofText twoTypesTurned = .ok c ∧
      c.toList.map (·.typeName) = ["Relay", "Sink"]) ∧
    (∃ types e, readDocument.ofText sharedPlaces = .ok types ∧ ofText sharedPlaces = .error e ∧
      (∃ name doc, NodeDocument.Offends name doc e) ∧
      e.message = "Definition 'Split' assigns output index 0 to both 'c' and 'd'") := by
  constructor
  · obtain ⟨types, htypes, -⟩ := exists_of_any (x := readDocument.ofText twoTypes)
      (P := fun _ => true) (by decide +kernel)
    obtain ⟨c, hc, hnames⟩ := exists_of_any (x := ofText twoTypes)
      (P := fun c => c.toList.map (·.typeName) = ["Relay", "Sink"]) (by decide +kernel)
    obtain ⟨-, -, hholds, -, -, hturned⟩ := read_canonically htypes
    obtain ⟨ds, hds⟩ := hholds c hc
    exact ⟨types, c, ds, htypes, hc, hds, (hturned _ twoTypes_rearranged).trans hc,
      of_decide_eq_true hnames⟩
  · obtain ⟨types, htypes, -⟩ := exists_of_any (x := readDocument.ofText sharedPlaces)
      (P := fun _ => true) (by decide +kernel)
    obtain ⟨e, he, hmessage⟩ := exists_error_of_any (x := ofText sharedPlaces)
      (P := fun e => e.message ==
        "Definition 'Split' assigns output index 0 to both 'c' and 'd'") (by decide +kernel)
    obtain ⟨-, -, -, herror, -, -⟩ := read_canonically htypes
    obtain ⟨name, doc, -, hoffends, -⟩ := (herror e).1 he
    exact ⟨types, e, htypes, he, ⟨name, doc, hoffends⟩, by simpa using hmessage⟩

end Catalog

end PromptGraph
