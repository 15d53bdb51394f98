import TypedMarkup.Proofs.Conversion.Correspondence
import TypedMarkup.Proofs.Conversion.Instances
import TypedMarkup.Proofs.Conversion.LiveSearch

/-!
# Found elements and their places

`PageConverter.allOfClass` converts each element that it finds on its own, although the elements
around it may be converted too, or be found themselves. What an element becomes does not hang on
where this is done: `Converter.InPlace` says of a tree that it stands at the place of an element in
the conversion of every element above it, and `allOfClass_in_place` that this holds of all results
of a search. The live search gives the same trees, each with nodes of its own.

The elements of a search are told apart by their positions in the document, which is taken as one
element (`Document.root`).
-/

namespace TypedMarkup

/-! ## The elements of a document -/

namespace Markup

/-- A document as an element that holds its top nodes. -/
def Document.root (document : Document) : Node :=
  .element Source.documentName [] document

/-- The nodes of a document with their positions, in document order. -/
def Document.located (document : Document) : List (Position × Node) :=
  Position.below 0 (document.map Node.located)

theorem Document.mem_located {document : Document} {p : Position} {n : Node} :
    (p, n) ∈ document.located ↔ p ≠ [] ∧ document.root.at? p = some n := by
  rw [located, ← Node.allLocated_eq_map]
  cases p with
  | nil =>
    exact ⟨fun h => absurd h (Position.nil_not_mem_below 0 _ n), fun h => absurd rfl h.1⟩
  | cons i p =>
    rw [← Node.mem_located, root, Node.located, List.mem_cons]
    simp

theorem Document.pairwise_located (document : Document) :
    (document.located.map Prod.fst).Pairwise (· < ·) :=
  Position.pairwise_below 0 (List.forall_mem_map.mpr fun n _ => n.pairwise_located)

namespace Node

theorem isElement_of_hasName {name : String} {n : Node} (h : n.hasName name = true) :
    n.isElement = true := by
  cases n with
  | element => rfl
  | string | foreign | absent => exact absurd h Bool.false_ne_true

mutual

/-- The elements of a name are found among all nodes, in the same order. -/
theorem named_eq_located (name : String) : (n : Node) →
    n.named name = (n.located.map Prod.snd).filter (hasName name)
  | element n attributes cs => by
    have hbelow : (Position.below 0 (allLocated cs)).map Prod.snd =
        (allLocated cs).flatMap (List.map Prod.snd) := Position.map_snd_below id 0 _
    rw [named, located, List.map_cons, List.filter_cons, hbelow, allNamed_eq_located name cs]
    simp only [hasName, beq_iff_eq]
  | string .. => rfl
  | foreign _ => rfl
  | absent => rfl

theorem allNamed_eq_located (name : String) : (ns : List Node) →
    allNamed name ns = ((allLocated ns).flatMap (List.map Prod.snd)).filter (hasName name)
  | [] => rfl
  | n :: ns => by
    rw [allNamed, allLocated, List.flatMap_cons, List.filter_append, named_eq_located name n,
      allNamed_eq_located name ns]

end

/-- What stands in a plain node is plain. -/
theorem isPlain_of_at? {n m : Node} {p : Position} (hn : n.isPlain = true)
    (h : n.at? p = some m) : m.isPlain = true := by
  induction p generalizing n with
  | nil => exact Option.some.inj h ▸ hn
  | cons i p ih =>
    rw [at?_cons, Option.bind_eq_some_iff] at h
    obtain ⟨c, hc, hm⟩ := h
    exact ih (isPlain_of_mem_children hn (List.mem_of_getElem? hc)) hm

end Node

/-- A search for a name finds these elements. -/
theorem Document.findAll_eq (document : Document) (name : String) :
    document.findAll name =
      (document.located.filter fun l => l.2.hasName name).map Prod.snd := by
  have hbelow : document.located.map Prod.snd =
      (Node.allLocated document).flatMap (List.map Prod.snd) := by
    rw [located, ← Node.allLocated_eq_map]
    exact Position.map_snd_below id 0 _
  rw [findAll, Node.allNamed_eq_located, ← hbelow, List.filter_map]
  rfl

theorem Document.isPlain_of_mem_findAll {document : Document} (h : Node.arePlain document = true)
    (name : String) : ∀ n ∈ document.findAll name, n.isElement = true ∧ n.isPlain = true := by
  intro n hn
  rw [findAll_eq, List.mem_map] at hn
  obtain ⟨l, hl, rfl⟩ := hn
  obtain ⟨hlocated, hname⟩ := List.mem_filter.mp hl
  have hroot : document.root.isPlain = true := h
  exact ⟨Node.isElement_of_hasName hname,
    Node.isPlain_of_at? hroot (Document.mem_located.mp hlocated).2⟩

end Markup

/-! ## The same output in every place -/

namespace Converter

variable {cv : Converter} {n : Markup.Node} {t : Tree}

/-- The output of an element is the same in any element. -/
theorem output_of_isElement (he : n.isElement = true) (parent : Option String) :
    cv.output parent n = cv.output none n := by
  obtain ⟨name, attributes, cs, rfl⟩ := Markup.Node.exists_of_isElement he
  rw [output, output]

/-- A conversion that comes to an element is that of an element. -/
theorem Reaches.isElement {root : Markup.Node} {p : Position} (h : cv.Reaches root p n)
    (he : n.isElement = true) : root.isElement = true := by
  cases p with
  | nil => exact reaches_nil.mp h ▸ he
  | cons i p =>
    obtain ⟨name, attributes, cs, c, rfl, -⟩ := reaches_cons.mp h
    rfl

/-- From a node on a conversion comes to what stands below it, if no element from this node on
becomes void. -/
theorem reaches_of_open {root a : Markup.Node} {q r : Position} (hn : root.at? (q ++ r) = some n)
    (ha : root.at? q = some a)
    (hopen : ∀ k, k <+: r → k ≠ r → ¬ cv.VoidAt root (q ++ k)) : cv.Reaches a r n where
  found := by rwa [Markup.Node.at?_append ha] at hn
  open_above k hk hne := by
    have h := hopen k hk hne
    rwa [VoidAt, Markup.Node.at?_append ha] at h

/-- The tree stands where the node at position `p` of the input stands in the conversion of each
element `a` above it, if no element from `a` on down to it becomes void; what becomes of elements
above `a` does not matter. -/
def InPlace (cv : Converter) (root : Markup.Node) (p : Position) (tree : Tree) : Prop :=
  ∀ q r a, p = q ++ r → root.at? q = some a →
    (∀ k, k <+: r → k ≠ r → ¬ cv.VoidAt root (q ++ k)) →
      ∃ u survivors nodes, cv.ConvertsTo a u ∧
        cv.Corresponds none a (some u) survivors nodes (cv.place a) ∧
        u.at? (cv.place a r) = some tree

/-- What an element is converted to on its own stands in its place. -/
theorem inPlace_of_convertsTo (hr : cv.registry.OfClasses) {root e : Markup.Node} {p : Position}
    (hroot : root.isPlain = true) (he : e.isElement = true) (hp : root.at? p = some e)
    (ht : cv.ConvertsTo e t) : cv.InPlace root p t := by
  have hplain : e.isPlain = true := Markup.Node.isPlain_of_at? hroot hp
  rw [convertsTo_iff_output hr he hplain] at ht
  rintro q r a rfl ha hopen
  have hreach : cv.Reaches a r e := reaches_of_open hp ha hopen
  have hsurvives : cv.Survives none a r e :=
    survives_iff.mpr ⟨hreach, by rw [output_of_isElement he, ht]; rfl⟩
  have hplace := at?_place hr hsurvives
  rw [output_of_isElement he, ht] at hplace
  obtain ⟨u, hu, hut⟩ := Option.bind_eq_some_iff.mp hplace
  obtain ⟨survivors, hsurvivors⟩ := output_corresponds hr none a
  rw [hu] at hsurvivors
  refine ⟨u, survivors, _, ?_, hsurvivors, hut⟩
  have hplain' : a.isPlain = true := Markup.Node.isPlain_of_at? hroot ha
  exact (convertsTo_iff_output hr (hreach.isElement he) hplain').mpr hu

end Converter

/-! ## The search -/

/-- What has a value that passes a test goes with the values that pass it. -/
theorem forall₂_filter_filterMap {α β : Type} (f : α → Option β) (test : β → Bool) (xs : List α) :
    List.Forall₂ (fun x y => f x = some y) (xs.filter fun x => (f x).any test)
      ((xs.filterMap f).filter test) := by
  induction xs with
  | nil => exact .nil
  | cons x xs ih =>
    cases hx : f x with
    | none => rwa [List.filterMap_cons_none hx, List.filter_cons_of_neg (by simp [hx])]
    | some y =>
      rw [List.filterMap_cons_some hx]
      cases hy : test y with
      | true =>
        rw [List.filter_cons_of_pos (by simp [hx, hy]), List.filter_cons_of_pos hy]
        exact .cons hx ih
      | false =>
        rwa [List.filter_cons_of_neg (by simp [hx, hy]), List.filter_cons_of_neg (by simp [hy])]

namespace PageConverter

variable {cv : Converter} {c : SemanticClass}

/-- The elements of a document with this name that convert to instances of a class, with their
positions, in document order. -/
structure Sources (cv : Converter) (c : SemanticClass) (tag : String) (document : Markup.Document)
    (sources : List (Position × Markup.Node)) : Prop where
  all : ∀ p e, (p, e) ∈ sources ↔ p ≠ [] ∧ document.root.at? p = some e ∧ e.hasName tag = true ∧
    ∃ t, cv.ConvertsTo e t ∧ t.isInstance c.name = true
  in_order : (sources.map Prod.fst).Pairwise (· < ·)

/-- A search among plain elements gives the outputs that are instances of the class. -/
theorem instances_exec_outputs (hr : cv.registry.OfClasses) {ns : List Markup.Node}
    (hns : ∀ n ∈ ns, n.isElement = true ∧ n.isPlain = true) (session : Session) :
    (instances cv c ns).exec session =
      (.ok ((ns.filterMap (cv.output none)).filter (Tree.isInstance c.name)),
        session.note cv (ns.flatMap (cv.skipped none))) := by
  induction ns generalizing session with
  | nil => rw [List.flatMap_nil, Session.note_nil]; rfl
  | cons n ns ih =>
    obtain ⟨⟨he, hn⟩, hns⟩ := List.forall_mem_cons.mp hns
    rw [instances, Conversion.exec_bind_ok (Converter.element_exec hr he hn session),
      Conversion.exec_bind_ok (ih hns _), Conversion.exec_pure, List.flatMap_cons,
      Session.note_append, List.filterMap_cons]
    cases cv.output none n with
    | none => rfl
    | some t => rw [← List.filter_append]; rfl

/-- The sources go with the outputs that are instances of the class. -/
theorem exists_sources (hr : cv.registry.OfClasses) (c : SemanticClass) (tag : String)
    {document : Markup.Document} (hplain : Markup.Node.arePlain document = true) :
    ∃ sources, Sources cv c tag document sources ∧
      List.Forall₂ (fun l tree => cv.ConvertsTo l.2 tree ∧ cv.InPlace document.root l.1 tree)
        sources
        (((document.findAll tag).filterMap (cv.output none)).filter (Tree.isInstance c.name)) := by
  let found := document.located.filter fun l => l.2.hasName tag
  have hroot : document.root.isPlain = true := hplain
  have hfound : ∀ l ∈ found, document.root.at? l.1 = some l.2 ∧ l.2.isElement = true := by
    intro l hl
    obtain ⟨hl, hname⟩ := List.mem_filter.mp hl
    exact ⟨(Markup.Document.mem_located.mp hl).2, Markup.Node.isElement_of_hasName hname⟩
  have hconverts : ∀ l ∈ found, ∀ t, cv.ConvertsTo l.2 t ↔ cv.output none l.2 = some t :=
    fun l hl t => by
      obtain ⟨hp, he⟩ := hfound l hl
      exact Converter.convertsTo_iff_output hr he (Markup.Node.isPlain_of_at? hroot hp)
  refine ⟨found.filter fun l => (cv.output none l.2).any (Tree.isInstance c.name),
    ⟨fun p e => ?_, ?_⟩, ?_⟩
  · rw [List.mem_filter]
    constructor
    · rintro ⟨hl, hany⟩
      obtain ⟨t, ht, hinstance⟩ := (Option.any_eq_true _ _).mp hany
      obtain ⟨hlocated, hname⟩ := List.mem_filter.mp hl
      obtain ⟨hp, he⟩ := Markup.Document.mem_located.mp hlocated
      exact ⟨hp, he, hname, t, (hconverts _ hl t).mpr ht, hinstance⟩
    · rintro ⟨hp, he, hname, t, ht, hinstance⟩
      have hl : (p, e) ∈ found :=
        List.mem_filter.mpr ⟨Markup.Document.mem_located.mpr ⟨hp, he⟩, hname⟩
      exact ⟨hl, (Option.any_eq_true _ _).mpr ⟨t, (hconverts _ hl t).mp ht, hinstance⟩⟩
  · refine document.pairwise_located.sublist (List.Sublist.map Prod.fst ?_)
    exact List.filter_sublist.trans List.filter_sublist
  · have hmatch := forall₂_filter_filterMap (fun l : Position × Markup.Node => cv.output none l.2)
      (Tree.isInstance c.name) found
    rw [Markup.Document.findAll_eq, List.filterMap_map]
    refine ((List.forall₂_and_left _ _).mpr ⟨fun l hl => (List.mem_filter.mp hl).1, hmatch⟩).imp
      fun l tree ⟨hl, ht⟩ => ?_
    have hconv := (hconverts l hl tree).mpr ht
    obtain ⟨hp, he⟩ := hfound l hl
    exact ⟨hconv, Converter.inPlace_of_convertsTo hr hroot he hp hconv⟩

/-- With a registry of element classes and plain attribute values the search for a class that is
registered as itself gives what its sources, the elements of the document that are found and convert
to an instance, are converted to, in document order. Each result stands in the place of its source
in the conversion of whatever element is above it. A live search gives the same trees as new nodes,
and no two of them share a node. -/
theorem allOfClass_in_place {pc : PageConverter} {page : Page} {document : Markup.Document}
    (hr : pc.converter.registry.OfClasses) (hc : pc.converter.registry.RegisteredAsItself c)
    (hread : (pc.read page).result = .ok document)
    (hplain : Markup.Node.arePlain document = true) (calls : Calls) (s : Store) :
    ∃ tag sources trees, pc.converter.registry.tagForClass c = .ok tag ∧
      Sources pc.converter c tag document sources ∧
      (pc.allOfClass page c calls).result = .ok trees ∧
      List.Forall₂ (fun l tree => pc.converter.ConvertsTo l.2 tree ∧
        pc.converter.InPlace document.root l.1 tree) sources trees ∧
      ∃ roots t session,
        (pc.converter.liveAllOfClass document c).exec ⟨s, ⟨calls, []⟩⟩ =
          (.ok roots, ⟨t, session⟩) ∧
        List.Forall₂ (fun root tree => t.tree? root = some tree) roots trees ∧
        roots.Pairwise fun root root' => List.Disjoint (t.subtree root) (t.subtree root') := by
  obtain ⟨tag, htag⟩ := hc.exists_tag
  obtain ⟨sources, hsources, hmatch⟩ := exists_sources hr c tag hplain
  have hfound := Markup.Document.isPlain_of_mem_findAll hplain tag
  have hexec := instances_exec_outputs (c := c) hr hfound ⟨calls, []⟩
  obtain ⟨roots, t, hlive, hgathered⟩ := Converter.liveInstances_exec hr c hfound s ⟨calls, []⟩
  have hresult : (pc.allOfClass page c calls).result = .ok (((document.findAll tag).filterMap
      (pc.converter.output none)).filter (Tree.isInstance c.name)) := by
    unfold allOfClass convertRead
    simp only [htag, hread, hexec, Report.note]
  have hlive' : pc.converter.liveAllOfClass document c =
      pc.converter.liveInstances c (document.findAll tag) := by
    unfold Converter.liveAllOfClass
    simp only [htag]
  rw [← hlive'] at hlive
  exact ⟨tag, sources, _, htag, hsources, hresult, hmatch, roots, t, _, hlive, hgathered.tree?,
    hgathered.apart⟩

/-- A drawing with an element of the class in another. -/
def nestedDrawing : Markup.Document :=
  [.element "svg" [] [.element "foreignobject" [] [.string .plain " ",
    .element "foreignobject" [] [.string .plain "x"]]]]

/-- The inner element is converted twice, on its own and in the outer one, into the same tree with
other nodes. -/
theorem allOfClass_in_place_nestedDrawing :
    foreignConverter.converter.registry.OfClasses ∧
      foreignConverter.converter.registry.RegisteredAsItself foreign ∧
      (foreignConverter.read (.parsed nestedDrawing)).result = .ok nestedDrawing ∧
      Markup.Node.arePlain nestedDrawing = true ∧
      ∃ tag sources outer inner,
        foreignConverter.converter.registry.tagForClass foreign = .ok tag ∧
        Sources foreignConverter.converter foreign tag nestedDrawing sources ∧
        (foreignConverter.allOfClass (.parsed nestedDrawing) foreign []).result =
          .ok [outer, inner] ∧
        List.Forall₂ (fun l tree => foreignConverter.converter.ConvertsTo l.2 tree ∧
          foreignConverter.converter.InPlace nestedDrawing.root l.1 tree) sources [outer, inner] ∧
        ∃ roots t session,
          (foreignConverter.converter.liveAllOfClass nestedDrawing foreign).exec
            ⟨.empty, .initial⟩ = (.ok roots, ⟨t, session⟩) ∧
          List.Forall₂ (fun root tree => t.tree? root = some tree) roots [outer, inner] ∧
          roots.Pairwise fun root root' => List.Disjoint (t.subtree root) (t.subtree root') := by
  have hc := registeredOnce_foreignConverter.registeredAsItself
  have hread : (foreignConverter.read (.parsed nestedDrawing)).result = .ok nestedDrawing := rfl
  have hplain : Markup.Node.arePlain nestedDrawing = true := rfl
  refine ⟨ofClasses_foreignConverter, hc, hread, hplain, ?_⟩
  obtain ⟨tag, sources, trees, htag, hsources, hresult, hmatch, hlive⟩ :=
    allOfClass_in_place ofClasses_foreignConverter hc hread hplain [] .empty
  have htwo : ((foreignConverter.allOfClass (.parsed nestedDrawing) foreign []).result.map
      List.length).toOption = some 2 := by
    decide +kernel
  rw [hresult] at htwo
  obtain ⟨outer, inner, rfl⟩ := List.length_eq_two.mp (Option.some.inj htwo)
  exact ⟨tag, sources, outer, inner, htag, hsources, hresult, hmatch, hlive⟩

end PageConverter

end TypedMarkup
