import FlowScript.Proofs.CallPorts

/-!
# Adapting a node twice

Adapting a node brings it in line in one go, with one exception.  The input of an output bridge takes
the type of its producer as its socket names it, and the type that is found there may have a base of
its own: then the socket of the input is that of the base, the wire that was followed no longer fits
and is cut, and adapting the bridge again makes it one for anything.

* `Graph.Misfit`: an output bridge is fed a type that is kept and has a base;
* `rests_followProducer`, `followProducer_ne_of_misfed`: the rule for output bridges rests where it
  has been followed unless it was fed such a type;
* `Graph.adapt_again_iff`: adapting a node a second time changes nothing except for a misfit.
-/

namespace FlowScript

open FlowScript.Graph

/-! ### Output bridges -/

namespace Graph

/-- An input is fed a type whose values can be kept, and whose socket is that of another one. -/
def Misfed (lang : Language) (g : Graph) (id : NodeId) : Prop :=
  ∃ t, g.producerType? lang id "input" = some t ∧ t.isLocal = true ∧ t.isAny = false ∧
    t.socket.typeName ≠ t.name

/-- An output bridge is fed such a type. -/
def Misfit (lang : Language) (g : Graph) (id : NodeId) : Prop :=
  (∃ n, g.node? id = some n ∧ lang.kind? n.component = some .moduleOutput) ∧ g.Misfed lang id

/-- The wires into the input of an output bridge fit the type that is taken from them. -/
def FitsTaken (lang : Language) (id : NodeId) (a : Adapted) : Prop :=
  (keptType lang id a "input" lang.types.any).1.graph.Fits id
    (.input "input" "Value" (keptType lang id a "input" lang.types.any).2.socket)

end Graph

section Bridge

variable {lang : Language} {id : NodeId} {a : Adapted} {n : Node} {o : Socket} {w : Wire}

theorem input?_of_lists (hn : a.graph.node? id = some n)
    (lists : n.Lists [.input "input" "Value" o] []) :
    a.graph.input? id "input" = some (.input "input" "Value" o) := by
  unfold Graph.input?
  rw [hn]
  exact lists.input? (List.mem_singleton.2 rfl)

/-- What feeds an input for values is an output for values. -/
theorem exists_source (wired : a.graph.WellWired)
    (input : a.graph.input? id "input" = some (.input "input" "Value" o))
    (hw : a.graph.wireInto? id "input" = some w) :
    w.source ≠ id ∧ ∃ producer s, a.graph.output? w.source w.sourcePort = some producer ∧
      producer.tag = .value s ∧ s.fits o = true ∧ a.graph.sourceSocket? id "input" = some s := by
  obtain ⟨mem, rfl, into⟩ := mem_incoming.1 (mem_incoming_of_wireInto? hw)
  obtain ⟨ne, producer, consumer, hp, hc, fit⟩ := wired.joins w mem
  rw [into, input] at hc
  cases hc
  refine ⟨ne, producer, ?_⟩
  cases tag : producer.tag with
  | flow =>
    rw [tag] at fit
    cases fit
  | value s =>
    rw [tag] at fit
    refine ⟨s, hp, rfl, fit, ?_⟩
    unfold sourceSocket?
    rw [hw]
    show (a.graph.node? w.source >>= fun n => n.output? w.sourcePort >>= fun p => p.tag.socket?) = _
    obtain ⟨k, hk, out⟩ := node?_isSome_of_output? hp
    rw [hk]
    show (k.output? w.sourcePort >>= fun p => p.tag.socket?) = _
    rw [out]
    show producer.tag.socket? = _
    rw [tag]
    rfl

theorem incoming_eq_nil_of_wireInto? {g : Graph} {port : String} (h : g.wireInto? id port = none) :
    g.incoming id port = [] := by
  unfold Graph.wireInto? at h
  unfold Graph.incoming
  rw [List.filter_eq_nil_iff]
  exact List.find?_eq_none.1 h

/-- A producer fits the type for anything, and a type whose socket has its name. -/
theorem producerGives_iff {producer : Port} {s : Socket} {t : DataType}
    (hp : a.graph.output? w.source w.sourcePort = some producer) (tag : producer.tag = .value s) :
    a.graph.producerGives w t.tag = true ↔ t.isAny = true ∨ s.typeName = t.socket.typeName := by
  unfold producerGives
  rw [show (a.graph.node? w.source >>= (·.output? w.sourcePort)) = some producer from hp]
  dsimp only
  rw [tag]
  exact Tag.compatible_value_iff

/-- No wire, none that does not fit. -/
theorem fits_of_wireInto? {g : Graph} {key title : String} {s : Socket}
    (h : g.wireInto? id key = none) : g.Fits id (.input key title s) := by
  have none : g.incoming id key = [] := incoming_eq_nil_of_wireInto? h
  intro w hw
  exact absurd (none ▸ hw) List.not_mem_nil

/-- The wires fit unless a type with a base of its own is taken. -/
theorem fitsTaken_of_not_misfed (cat : lang.types.Catalogued) (wired : a.graph.WellWired)
    (input : a.graph.input? id "input" = some (.input "input" "Value" o))
    (h : ¬ a.graph.Misfed lang id) : FitsTaken lang id a := by
  unfold FitsTaken
  rw [keptType_eq]
  cases hw : a.graph.wireInto? id "input" with
  | none =>
    rw [fedType_of_none hw]
    exact fits_of_wireInto? hw
  | some w =>
    have single := wired.input_single input rfl
    by_cases refused : (a.graph.producerType? lang id "input").any unkept = true
    · -- the only wire is cut before the input is retagged
      rw [fedType_of_refused hw refused]
      exact fits_of_wireInto? (wireInto?_cut hw single)
    · rw [fedType_of_given hw refused]
      obtain ⟨ne, producer, s, hp, tag, -, socket⟩ := exists_source wired input hw
      have fed : a.graph.producerType? lang id "input" = lang.types.get? s.typeName := by
        unfold producerType?
        rw [socket]
        rfl
      have gives : a.graph.producerGives w (sourceType lang id "input" a.graph w).tag = true := by
        rw [producerGives_iff hp tag]
        unfold sourceType
        rw [fed] at refused ⊢
        cases ht : lang.types.get? s.typeName with
        | none => exact .inl cat.isAny
        | some t =>
          rw [ht] at refused fed
          show t.isAny = true ∨ s.typeName = t.socket.typeName
          by_contra no
          obtain ⟨notAny, named⟩ := not_or.1 no
          have isAny : t.isAny = false := Bool.eq_false_iff.2 notAny
          have isLocal : t.isLocal = true := by simpa [unkept, isAny] using refused
          refine h ⟨t, fed, isLocal, isAny, fun e => named ?_⟩
          rw [e, cat.name ht]
      intro v hv
      have same : v = w := List.mem_singleton.1 (incoming_eq_singleton hw single ▸ hv)
      rw [same]
      exact ⟨ne, gives⟩

/-! ### Following a producer twice -/

theorem input?_followProducer (lang : Language) (hn : a.graph.node? id = some n)
    (lists : n.Lists [.input "input" "Value" o] []) :
    (followProducer lang id a).graph.input? id "input" = some (.input "input" "Value"
      (keptType lang id a "input" lang.types.any).2.socket) := by
  have port : n.input? "input" = some (.input "input" "Value" o) :=
    lists.input? (List.mem_singleton.2 rfl)
  unfold Graph.input?
  rw [node?_followProducer lang hn]
  show (n.retagInput "input" _).input? "input" = _
  rw [Node.input?_retagInput, if_pos rfl, port]
  rfl

/-- Following a producer whose wire fits the type taken from it. -/
theorem rests_followProducer (wired : a.graph.WellWired) (hn : a.graph.node? id = some n)
    (lists : n.Lists [.input "input" "Value" o] []) (fits : FitsTaken lang id a) :
    Rests (followProducer lang id) (followProducer lang id a).graph := by
  have input := input?_of_lists hn lists
  have node := node?_followProducer lang hn
  have port := input?_followProducer lang hn lists
  have same : SameFeed id "input" (keptType lang id a "input" lang.types.any).1.graph
      (followProducer lang id a).graph := by
    unfold FitsTaken at fits
    unfold followProducer
    generalize keptType lang id a "input" lang.types.any = kept at fits ⊢
    obtain ⟨b, t⟩ := kept
    have retagged : b.graph.setInputTag id "input" t.tag =
        (b.graph.modifyNode id (·.retagInput "input" t.tag), []) := setInputTag_of_fits fits
    dsimp only [Adapted.step, Adapted.update]
    rw [retagged]
    exact (SameFeed.edit ..).trans (.edit ..)
  intro cut
  have again := keptType_again wired (wired.input_single input rfl) same cut
  generalize (followProducer lang id a).graph = g at node port again ⊢
  generalize (keptType lang id a "input" lang.types.any).2 = t at node port again
  have tagged : g.setInputTag id "input" t.tag = (g, []) := by
    refine setInputTag_eq_self fun p hp => ?_
    cases port.symm.trans hp
    rfl
  unfold followProducer
  rw [again]
  dsimp only [Adapted.step]
  rw [tagged, List.append_nil]
  refine rests_edit (fun m hm => Node.set_eq_self ?_) cut
  cases node.symm.trans hm
  rw [Node.get?_set, if_pos rfl]

/-- A wire that does not fit the type taken from it is gone afterwards. -/
theorem wireInto?_followProducer {s : Socket} {t : DataType} (wired : a.graph.WellWired)
    (hn : a.graph.node? id = some n) (lists : n.Lists [.input "input" "Value" o] [])
    (taken : keptType lang id a "input" lang.types.any = (a, t))
    (fed : a.graph.sourceSocket? id "input" = some s) (unfit : s.fits t.socket = false) :
    (followProducer lang id a).graph.wireInto? id "input" = none := by
  have input := input?_of_lists hn lists
  have port := input?_followProducer lang hn lists
  rw [taken] at port
  have after := (adapting_refl wired hn).followProducer lang
  have less := ((.refl : Adapted.Changes id a a).followProducer lang).less
  cases hv : (followProducer lang id a).graph.wireInto? id "input" with
  | none => rfl
  | some v =>
    -- it would be the wire that was followed, and would have to fit its new socket
    exfalso
    obtain ⟨w, hw, -⟩ := Option.bind_eq_some_iff.1 fed
    have same : v = w := by
      obtain ⟨mem, into⟩ := mem_incoming.1 (mem_incoming_of_wireInto? hv)
      have old : v ∈ a.graph.incoming id "input" := mem_incoming.2 ⟨less.1 v mem, into⟩
      rw [incoming_eq_singleton hw (wired.input_single input rfl)] at old
      exact List.mem_singleton.1 old
    subst same
    obtain ⟨ne, producer, s', hp, tag, fits, -⟩ :=
      exists_source (a := followProducer lang id a) after.wired port hv
    obtain ⟨-, producer', s'', hp', tag', -, fed'⟩ := exists_source wired input hw
    have producers : producer = producer' := by
      unfold Graph.output? at hp hp'
      rw [less.2 _ ne.symm] at hp
      exact Option.some.inj (hp.symm.trans hp')
    have sockets : s' = s := by
      rw [producers, tag'] at tag
      rw [fed'] at fed
      exact (Tag.value.inj tag).symm.trans (Option.some.inj fed)
    rw [sockets, unfit] at fits
    cases fits

/-- The bridge that was fed a type with a base of its own is fed no more, and turns to anything. -/
theorem followProducer_ne_of_misfed (cat : lang.types.Catalogued) (wired : a.graph.WellWired)
    (hn : a.graph.node? id = some n) (lists : n.Lists [.input "input" "Value" o] [])
    (misfed : a.graph.Misfed lang id) (cut : List Wire) :
    (followProducer lang id ⟨(followProducer lang id a).graph, cut⟩).graph ≠
      (followProducer lang id a).graph := by
  obtain ⟨t, ht, isLocal, notAny, named⟩ := misfed
  obtain ⟨s, fed, found⟩ := Option.bind_eq_some_iff.1 ht
  have taken : keptType lang id a "input" lang.types.any = (a, t) := by
    obtain ⟨w, hw, -⟩ := Option.bind_eq_some_iff.1 fed
    rw [keptType_eq, fedType_of_given hw]
    · unfold sourceType
      rw [ht]
      rfl
    · rw [ht]
      simp [unkept, isLocal]
  have unfit : s.fits t.socket = false := by
    unfold Socket.fits
    rw [← cat.name found, show t.socket.isAny = false from notAny]
    simpa using named.symm
  have gone := wireInto?_followProducer wired hn lists taken fed unfit
  have once := node?_followProducer lang hn
  generalize (followProducer lang id a).graph = g at gone once ⊢
  have second : keptType lang id ⟨g, cut⟩ "input" lang.types.any = (⟨g, cut⟩, lang.types.any) := by
    rw [keptType_eq, fedType_of_none (a := ⟨g, cut⟩) gone]
  intro rests
  have twice := node?_followProducer lang (a := ⟨g, cut⟩) once
  rw [rests, second] at twice
  rw [taken] at once twice
  -- the data would name both the type and the one for anything
  have data := congrArg (fun m : Node => m.data.get? "typeName")
    (Option.some.inj (once.symm.trans twice))
  simp only [Node.get?_set, if_true, Option.some.injEq, Json.str.injEq] at data
  have any : some t = some lang.types.any := by
    rw [← cat.has found, ← cat.any, data]
  rw [Option.some.inj any, cat.isAny] at notAny
  cases notAny

end Bridge

/-! ### All kinds -/

namespace Graph

variable {lang : Language} {g : Graph} {id : NodeId} {lib : Library} {n m : Node} {kind : Kind}

/-- Every rule rests where it has been followed, if no output bridge is fed a type with a base. -/
theorem rests_ruleFor (cat : lang.types.Catalogued) (sound : g.Sound lang) (form : g.InForm lang)
    (hn : g.node? id = some n) (hk : lang.kind? n.component = some kind)
    (fit : kind = .moduleOutput → ¬ g.Misfed lang id)
    (hm : (ruleFor lang id lib kind n { graph := g }).graph.node? id = some m) :
    Rests (ruleFor lang id lib kind m) (ruleFor lang id lib kind n { graph := g }).graph := by
  have here : ({ graph := g } : Adapted).graph.node? id = some n := hn
  have shaped := sound.shaped hn hk
  obtain ⟨ports, assigns⟩ := form.node hn hk
  cases kind with
  | declaration | moduleInput => exact rests_followDeclared cat here _
  | moduleOutput =>
    obtain ⟨_, -, socket, lists⟩ := ports rfl
    refine rests_followProducer sound.wired here lists ?_
    exact fitsTaken_of_not_misfed cat sound.wired (input?_of_lists here lists) (fit rfl)
  | forLoop =>
    obtain ⟨present, hp, holds⟩ := ports rfl
    exact rests_adaptForLoop cat sound.wired here hp holds hm
  | definition =>
    obtain ⟨present, hp, holds⟩ := ports rfl
    exact rests_adaptDefinition cat sound.wired here hp holds hm
  | sequence =>
    obtain ⟨present, hp, _, lists⟩ := ports rfl
    exact rests_adaptSequence here hp lists hm
  | record => exact rests_adaptRecord here hm
  | assignment =>
    obtain ⟨present, numbered⟩ := shaped
    exact rests_adaptAssignment sound.wired here numbered (assigns rfl)
  | moduleCall => exact rests_adaptModuleCall sound.wired here hm
  | literal | call | topLevelCode | code | branch | whileLoop | flowEntry | flowExit =>
    exact fun _ => rfl

/-- Whatever a session has done, adapting a node a second time changes nothing and cuts nothing,
except for an output bridge that is fed a type with a base of its own. -/
theorem adapt_again_iff {patterns : PatternReader} {core : CoreDesc} {surface : SurfaceDesc}
    {extra : ExtraDesc} (loaded : Language.load patterns core surface extra = .ok lang)
    (name : String) {edits : List Edit}
    (he : ∀ e ∈ edits, e.isRetag = false) (id : NodeId) (lib : Library) :
    ((session lang name edits).adapt lang id lib).1.adapt lang id lib =
        (((session lang name edits).adapt lang id lib).1, []) ↔
      ¬ (session lang name edits).Misfit lang id := by
  have cat := Language.catalogued_of_load loaded
  have sound := sound_session lang name edits
  have form := inForm_session cat name he
  generalize session lang name edits = g at sound form ⊢
  by_cases known : ∃ n kind, g.node? id = some n ∧ lang.kind? n.component = some kind
  · obtain ⟨n, kind, hn, hk⟩ := known
    obtain ⟨m, hm, place⟩ := (Adapted.changes_adapt lang id g lib).trimmed.node n hn
    have hk' : lang.kind? m.component = some kind := place.2.1 ▸ hk
    rw [adapt_eq_ruleFor lib hm hk', adapt_eq_ruleFor lib hn hk]
    rw [adapt_eq_ruleFor lib hn hk] at hm
    by_cases misfit : g.Misfit lang id
    · refine iff_of_false (fun again => ?_) (not_not_intro misfit)
      obtain ⟨⟨n', hn', bridge⟩, misfed⟩ := misfit
      cases hn.symm.trans hn'
      cases hk.symm.trans bridge
      obtain ⟨_, -, socket, lists⟩ := (form.node hn hk).ports rfl
      exact followProducer_ne_of_misfed (a := { graph := g }) cat sound.wired hn lists misfed []
        (Prod.mk.inj again).1
    · refine iff_of_true ?_ misfit
      have fit : kind = .moduleOutput → ¬ g.Misfed lang id :=
        fun e misfed => misfit ⟨⟨n, hn, e ▸ hk⟩, misfed⟩
      rw [rests_ruleFor cat sound form hn hk fit hm []]
  · have unknown : ∀ n, g.node? id = some n → lang.kind? n.component = none := fun n hn =>
      Option.eq_none_iff_forall_ne_some.2 fun kind hk => known ⟨n, kind, hn, hk⟩
    have same := adapt_eq_self lib unknown
    rw [same]
    refine iff_of_true same ?_
    rintro ⟨⟨n, hn, hk⟩, -⟩
    exact known ⟨n, _, hn, hk⟩

end Graph

/-! ### A sample -/

namespace Sample

/-- A variable of some type feeds the output of a module. -/
def bridged (type : String) : List Edit := [
  .create .empty "Variable" (.ofList [("typeName", .str type)]),
  .create .empty "Output" (.ofList [("name", .str "total")]),
  .connect ⟨1, "result", 2, "input"⟩]

theorem bridged_edits (type : String) : ∀ e ∈ bridged type, e.isRetag = false := by
  simp [bridged, Edit.isRetag]

/-- The output of a count is cut off the first time, and is for anything the second time. -/
theorem bridged_count_unsettled :
    Language.load Pattern.reader layeredCore layeredSurface {} = .ok layered ∧
      (∀ e ∈ bridged "count", e.isRetag = false) ∧
      ((Graph.session layered "main" (bridged "count")).adapt layered 2 .empty).2 =
        [⟨1, "result", 2, "input"⟩] ∧
      ((Graph.session layered "main" (bridged "count")).adapt layered 2 .empty).1.adapt layered 2
          .empty ≠
        (((Graph.session layered "main" (bridged "count")).adapt layered 2 .empty).1, []) := by
  refine ⟨layered_load_eq, bridged_edits "count", ?_, ?_⟩ <;> decide +kernel

/-- The output of a 32-bit integer is that of an integer, and is settled in one go. -/
theorem adapt_again_iff_int32 :
    Language.load Pattern.reader layeredCore layeredSurface {} = .ok layered ∧
      (∀ e ∈ bridged "int32", e.isRetag = false) ∧
      ((Graph.session layered "main" (bridged "int32")).adapt layered 2 .empty).1.adapt layered 2
          .empty =
        (((Graph.session layered "main" (bridged "int32")).adapt layered 2 .empty).1, []) := by
  have edits := bridged_edits "int32"
  refine ⟨layered_load_eq, edits,
    (Graph.adapt_again_iff layered_load_eq "main" edits 2 .empty).2 ?_⟩
  rintro ⟨-, t, fed, -, -, named⟩
  have int : ((Graph.session layered "main" (bridged "int32")).producerType? layered 2 "input").map
      (fun t => (t.socket.typeName, t.name)) = some ("int", "int") := by
    decide +kernel
  rw [fed] at int
  obtain ⟨socket, name⟩ := Prod.mk.inj (Option.some.inj int)
  exact named (socket.trans name.symm)

end Sample

end FlowScript
