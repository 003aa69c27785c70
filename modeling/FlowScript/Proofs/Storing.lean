import FlowScript.Proofs.Decoding
import FlowScript.Proofs.Shortest

/-!
# Stored graphs are read back

The text of a graph stands for the graph: reading it gives back every node under its key, with its
number, its data, its ports and its place, and every wire, all in their order.  What is asked of the
graph is that its numbers have the bits that are kept of them, that its floats are read back from
their texts, which depends on how floats are written and read, and that its data are not nested too
deep for the reader.

* `Json.sound`, `Json.depth`: values that are kept, and how deep they are nested;
* `Decoder.accepts_json`: the text of such a value stands for it;
* `Graph.Storable`: what is asked of a graph;
* `Graph.restore?_store`: its text stands for it.
-/

namespace FlowScript

open Document

/-! ### Numbers -/

namespace Number

variable {codec : FloatCodec}

/-- Whether a number is an integer of 64 bits or a float that is read back from its text. -/
def sound (codec : FloatCodec) : Number → Bool
  | .int z => decide (-2 ^ 63 ≤ z ∧ z < 2 ^ 64)
  | .float x => decide (codec.KeepsDouble x)

theorem exists_numeral_int {z : Int} (h : -2 ^ 63 ≤ z ∧ z < 2 ^ 64) :
    ∃ n, readNumeral? (Json.numberText codec (.int z)).toList = some (n, []) ∧
      ofNumeral? codec n = some (.int z) := by
  obtain ⟨lower, upper⟩ := h
  by_cases negative : z < 0
  · refine ⟨⟨true, Decimal.digits z.natAbs, [], none⟩, ?_, ?_⟩
    · have text : (Json.numberText codec (.int z)).toList = '-' :: Decimal.digits z.natAbs := by
        rw [Json.numberText, Decimal.intText, if_pos negative, String.toList_append]
        simp [Decimal.text]
      rw [text, readNumeral?, readUnsigned?_digits]
    · have pos : 0 < z.natAbs := by omega
      have bound : z.natAbs ≤ Nat.pow 2 63 := by
        change z.natAbs ≤ 2 ^ 63
        omega
      simp only [ofNumeral?, integral_digits, coefficient_digits, not_true_eq_false, false_and,
        and_false, ↓reduceIte, pos, bound, and_self]
      congr 2
      omega
  · refine ⟨⟨false, Decimal.digits z.natAbs, [], none⟩, ?_, ?_⟩
    · have text : (Json.numberText codec (.int z)).toList = Decimal.digits z.natAbs := by
        rw [Json.numberText, Decimal.intText, if_neg negative]
        simp [Decimal.text]
      rw [text, readNumeral?_digits]
    · have bound : z.natAbs < Nat.pow 2 64 := by
        change z.natAbs < 2 ^ 64
        omega
      simp [ofNumeral?, bound]
      omega

/-- A sound number is read back from its text. -/
theorem exists_numeral {n : Number} (h : n.sound codec = true) :
    ∃ numeral, readNumeral? (Json.numberText codec n).toList = some (numeral, []) ∧
      ofNumeral? codec numeral = some n := by
  cases n with
  | int z => exact exists_numeral_int (of_decide_eq_true h)
  | float x => exact FloatCodec.number?_eq_some_iff.1 (of_decide_eq_true h)

end Number

/-! ### Values -/

namespace Json

mutual

/-- How many containers stand inside each other. -/
def depth : Json → Nat
  | .arr xs => itemsDepth xs + 1
  | .obj ms => membersDepth ms + 1
  | .null | .bool _ | .num _ | .str _ => 0

/-- The depth of the deepest item. -/
def itemsDepth : List Json → Nat
  | [] => 0
  | x :: xs => max x.depth (itemsDepth xs)

/-- The depth of the deepest member. -/
def membersDepth : List (String × Json) → Nat
  | [] => 0
  | (_, x) :: ms => max x.depth (membersDepth ms)

end

mutual

/-- Whether all numbers are sound and the members of objects stand in the order of their keys. -/
def sound (codec : FloatCodec) : Json → Bool
  | .num n => n.sound codec
  | .arr xs => itemsSound codec xs
  | .obj ms => decide ((ms.map Prod.fst).Pairwise (· < ·)) && membersSound codec ms
  | .null | .bool _ | .str _ => true

/-- Whether all items are sound. -/
def itemsSound (codec : FloatCodec) : List Json → Bool
  | [] => true
  | x :: xs => x.sound codec && itemsSound codec xs

/-- Whether all members are sound. -/
def membersSound (codec : FloatCodec) : List (String × Json) → Bool
  | [] => true
  | (_, x) :: ms => x.sound codec && membersSound codec ms

end

variable {codec : FloatCodec}

theorem chars_arr (xs : List Json) : (arr xs).chars codec = arrayChars (xs.map (chars codec)) := by
  have items : ∀ (x : Json) (xs : List Json),
      x.chars codec ++ itemChars codec xs = commaChars ((x :: xs).map (chars codec)) ++ [']'] := by
    intro x xs
    induction xs generalizing x with
    | nil => rfl
    | cons y ys ih =>
      rw [itemChars, ih]
      simp only [List.map_cons, commaChars_cons_cons]
      simp
  cases xs with
  | nil => rfl
  | cons x xs => rw [chars, items, arrayChars]

theorem chars_obj (ms : List (String × Json)) :
    (obj ms).chars codec = objectChars (ms.map fun (k, x) => (k, x.chars codec)) := by
  have members : ∀ (k : String) (x : Json) (ms : List (String × Json)),
      quoted k ++ ':' :: (x.chars codec ++ memberChars codec ms) =
        commaChars (((k, x) :: ms).map fun (k, x) => quoted k ++ ':' :: x.chars codec) ++
          ['\x7d'] := by
    intro k x ms
    induction ms generalizing k x with
    | nil => simp [memberChars, commaChars]
    | cons m ms ih =>
      obtain ⟨l, y⟩ := m
      rw [memberChars, ih]
      simp only [List.map_cons, commaChars_cons_cons]
      simp
  cases ms with
  | nil => rfl
  | cons m ms =>
    obtain ⟨k, x⟩ := m
    rw [chars, members, objectChars, List.map_map]
    rfl

end Json

namespace Decoder

open Json

variable {codec : FloatCodec}

/-- A member goes in front of members with greater keys. -/
theorem place_of_lt {k : String} {v : Json} {ms : List (String × Json)}
    (h : ∀ l ∈ ms.map Prod.fst, k < l) : place k v ms = (k, v) :: ms := by
  cases ms with
  | nil => rfl
  | cons m ms => rw [place, if_pos (h m.1 List.mem_cons_self)]

mutual

/-- The text of a value stands for it where the containers in it may be opened. -/
theorem accepts_json :
    (j : Json) → j.sound codec = true → (json codec).Accepts j.depth (j.chars codec) j
  | .null, _ => ⟨.null, by simpa [chars] using Reads.null, fun _ _ => by simp [json]⟩
  | .bool b, _ => ⟨.bool b, by simpa [chars] using Reads.bool b, fun _ _ => by simp [json]⟩
  | .num n, h => by
    obtain ⟨numeral, read, value⟩ := Number.exists_numeral h
    exact ⟨.num numeral, .numeral (by simpa [chars] using read), fun _ _ => by simp [json, value]⟩
  | .str s, _ => ⟨.str (spell s), by simpa [chars] using Reads.string s, fun _ _ => by simp [json]⟩
  | .arr xs, h => by
    obtain ⟨docs, reads, decodes⟩ := accepts_items xs h
    rw [chars_arr, Json.depth]
    exact .container (.array reads) fun depth enough => by simp [json, decodes depth enough]
  | .obj ms, h => by
    simp only [sound, Bool.and_eq_true, decide_eq_true_eq] at h
    obtain ⟨docs, reads, decodes⟩ := accepts_members ms h.2 h.1
    rw [chars_obj, Json.depth]
    exact .container (.object reads) fun depth enough => by simp [json, decodes depth enough]

theorem accepts_items : (xs : List Json) → itemsSound codec xs = true →
    ∃ docs, List.Forall₂ Reads (xs.map (chars codec)) docs ∧
      ∀ depth, itemsDepth xs ≤ depth → items codec depth docs = some xs
  | [], _ => ⟨[], .nil, fun _ _ => by simp [items]⟩
  | x :: xs, h => by
    simp only [itemsSound, Bool.and_eq_true] at h
    obtain ⟨doc, read, decode⟩ := accepts_json x h.1
    obtain ⟨docs, reads, decodes⟩ := accepts_items xs h.2
    refine ⟨doc :: docs, .cons read reads, fun depth enough => ?_⟩
    rw [itemsDepth] at enough
    simp [items, decode depth (by omega), decodes depth (by omega)]

theorem accepts_members : (ms : List (String × Json)) → membersSound codec ms = true →
    (ms.map Prod.fst).Pairwise (· < ·) →
    ∃ docs, Reads.Named (ms.map fun (k, x) => (k, x.chars codec)) docs ∧
      ∀ depth, membersDepth ms ≤ depth →
        members codec depth (docs.map fun (k, x) => (spell k, x)) = some ms
  | [], _, _ => ⟨[], .nil, fun _ _ => by simp [members]⟩
  | (k, x) :: ms, h, sorted => by
    simp only [membersSound, Bool.and_eq_true] at h
    rw [List.map_cons, List.pairwise_cons] at sorted
    obtain ⟨doc, read, decode⟩ := accepts_json x h.1
    obtain ⟨docs, reads, decodes⟩ := accepts_members ms h.2 sorted.2
    refine ⟨(k, doc) :: docs, .cons ⟨rfl, read⟩ reads, fun depth enough => ?_⟩
    rw [membersDepth] at enough
    rw [List.map_cons, members, decode depth (by omega), decodes depth (by omega)]
    simp [place_of_lt sorted.1]

end

end Decoder

/-! ### Ports -/

open Decoder Json

theorem Socket.accepts (s : Socket) :
    Socket.decoder.Accepts 1 (objectChars [
      ("type_name", quoted s.typeName), ("is_any", boolChars s.isAny)]) s := by
  obtain ⟨name, readName, decodeName⟩ := accepts_string s.typeName
  obtain ⟨any, readAny, decodeAny⟩ := accepts_bool s.isAny
  refine accepts_record [("type_name", name), ("is_any", any)]
    (.cons ⟨rfl, readName⟩ (.cons ⟨rfl, readAny⟩ .nil)) rfl (by decide) fun depth enough => ?_
  simp [Fields.need, List.lookup_cons, decodeName, decodeAny]

theorem Tag.accepts (t : Tag) : Tag.decoder.Accepts 2 t.storedChars t := by
  cases t with
  | flow => exact ⟨_, .string "Flow", fun depth _ => by simp [Tag.decoder, choice]⟩
  | value s =>
    obtain ⟨doc, read, decode⟩ := s.accepts
    have member : Reads.Named [("Value", _)] [("Value", doc)] := .cons ⟨rfl, read⟩ .nil
    refine .container (.object member) fun depth enough => ?_
    simp [Tag.decoder, choice, decode depth enough]

theorem Direction.accepts (d : Direction) : Direction.decoder.Accepts 0 d.storedChars d := by
  cases d <;>
    exact ⟨_, .string _, fun depth _ => by simp [Direction.decoder, choice, ofName?]⟩

theorem Port.accepts (p : Port) : Port.decoder.Accepts 3 p.storedChars p := by
  obtain ⟨key, readKey, decodeKey⟩ := accepts_string p.key
  obtain ⟨title, readTitle, decodeTitle⟩ := accepts_string p.title
  obtain ⟨direction, readDirection, decodeDirection⟩ := p.direction.accepts
  obtain ⟨tag, readTag, decodeTag⟩ := p.tag.accepts
  obtain ⟨multi, readMulti, decodeMulti⟩ := accepts_bool p.multi
  refine accepts_record
    [("key", key), ("title", title), ("direction", direction), ("tag", tag),
      ("multi_connect", multi)]
    (.cons ⟨rfl, readKey⟩ (.cons ⟨rfl, readTitle⟩ (.cons ⟨rfl, readDirection⟩
      (.cons ⟨rfl, readTag⟩ (.cons ⟨rfl, readMulti⟩ .nil))))) rfl (by decide) fun depth enough => ?_
  simp [Fields.need, List.lookup_cons, decodeKey, decodeTitle, decodeDirection,
    decodeTag depth enough, decodeMulti]

/-- Ports by key are read back. -/
theorem accepts_storedPorts (ports : OrderedMap String Port) :
    (Decoder.map Port.decoder).Accepts 4 (storedPorts ports) ports :=
  accepts_map fun p _ => p.accepts

/-! ### Nodes and wires -/

section

variable {codec : FloatCodec}

/-- Whether a coordinate is finite and read back from its text. -/
def Position.keeps (codec : FloatCodec) (c : Option Binary) : Bool :=
  c.any fun x => decide (codec.KeepsSingle x)

/-- Texts are read as floats of 64 bits, and rounded once more to 32.  So the text of a coordinate
may give a neighbour even where numerals are read to the nearest float. -/
example : Position.keeps .nearest (some ⟨false, 11420669, 42⟩) = false := by decide +kernel

theorem Position.accepts_coordinate {c : Option Binary} (h : keeps codec c = true) :
    (coordinateDecoder codec).Accepts 0 (coordinateText codec c).toList c := by
  simp only [keeps, Option.any_eq_true, decide_eq_true_eq] at h
  obtain ⟨x, rfl, back⟩ := h
  obtain ⟨m, found, value⟩ := Option.map_eq_some_iff.1 back
  obtain ⟨n, read, number⟩ := FloatCodec.number?_eq_some_iff.1 found
  exact ⟨.num n, .numeral read, fun _ _ => by simp [coordinateDecoder, number, value]⟩

theorem Position.accepts {p : Position} (hx : keeps codec p.x = true)
    (hy : keeps codec p.y = true) : (Position.decoder codec).Accepts 1
      (arrayChars [(coordinateText codec p.x).toList, (coordinateText codec p.y).toList]) p := by
  obtain ⟨doc, read, decode⟩ := accepts_pair (accepts_coordinate hx) (accepts_coordinate hy)
  exact ⟨doc, read, fun depth enough => by simp [Position.decoder, decode depth enough]⟩

/-- What is asked of a node: its number fits in 32 bits, its data hold integers of 64 bits, floats
that are read back and objects in the order of their keys, they are not nested too deep for the
reader, and its coordinates are finite and read back. -/
structure Node.Storable (codec : FloatCodec) (n : Node) : Prop where
  id : n.id ≤ maxNodeId
  sound : ∀ v ∈ n.data.values, v.sound codec = true
  depth : ∀ v ∈ n.data.values, v.depth ≤ 123
  x : Position.keeps codec n.position.x = true
  y : Position.keeps codec n.position.y = true

instance (n : Node) : Decidable (n.Storable codec) :=
  decidable_of_iff (n.id ≤ maxNodeId ∧ (∀ v ∈ n.data.values, v.sound codec = true) ∧
    (∀ v ∈ n.data.values, v.depth ≤ 123) ∧ Position.keeps codec n.position.x = true ∧
    Position.keeps codec n.position.y = true)
    ⟨fun ⟨id, sound, depth, x, y⟩ => ⟨id, sound, depth, x, y⟩,
      fun ⟨id, sound, depth, x, y⟩ => ⟨id, sound, depth, x, y⟩⟩

theorem Node.accepts {n : Node} (h : n.Storable codec) :
    (Node.decoder codec).Accepts 125 (n.storedChars codec) n := by
  obtain ⟨id, readId, decodeId⟩ := accepts_nat h.id
  obtain ⟨component, readComponent, decodeComponent⟩ := accepts_string n.component
  obtain ⟨data, readData, decodeData⟩ := accepts_map (m := n.data) fun v hv =>
    (accepts_json v (h.sound v hv)).mono (h.depth v hv)
  obtain ⟨position, readPosition, decodePosition⟩ := Position.accepts h.x h.y
  obtain ⟨inputs, readInputs, decodeInputs⟩ := accepts_storedPorts n.inputs
  obtain ⟨outputs, readOutputs, decodeOutputs⟩ := accepts_storedPorts n.outputs
  refine accepts_record
    [("id", id), ("component", component), ("data", data), ("position", position),
      ("inputs", inputs), ("outputs", outputs)]
    (.cons ⟨rfl, readId⟩ (.cons ⟨rfl, readComponent⟩ (.cons ⟨rfl, readData⟩
      (.cons ⟨rfl, readPosition⟩ (.cons ⟨rfl, readInputs⟩ (.cons ⟨rfl, readOutputs⟩ .nil))))))
    rfl (by decide) fun depth enough => ?_
  simp [Fields.need, List.lookup_cons, NodeId.decoder, decodeId, decodeComponent,
    decodeData depth enough, decodePosition depth (by omega), decodeInputs depth (by omega),
    decodeOutputs depth (by omega)]

theorem Wire.accepts {w : Wire} (source : w.source ≤ maxNodeId) (target : w.target ≤ maxNodeId) :
    Wire.decoder.Accepts 1 w.storedChars w := by
  obtain ⟨source, readSource, decodeSource⟩ := accepts_nat source
  obtain ⟨sourcePort, readSourcePort, decodeSourcePort⟩ := accepts_string w.sourcePort
  obtain ⟨target, readTarget, decodeTarget⟩ := accepts_nat target
  obtain ⟨targetPort, readTargetPort, decodeTargetPort⟩ := accepts_string w.targetPort
  refine accepts_record
    [("from_node", source), ("from_port", sourcePort), ("to_node", target), ("to_port", targetPort)]
    (.cons ⟨rfl, readSource⟩ (.cons ⟨rfl, readSourcePort⟩ (.cons ⟨rfl, readTarget⟩
      (.cons ⟨rfl, readTargetPort⟩ .nil)))) rfl (by decide) fun depth enough => ?_
  simp [Fields.need, List.lookup_cons, NodeId.decoder, decodeSource, decodeSourcePort, decodeTarget,
    decodeTargetPort]

theorem escapeChar_of_isDigit {c : Char} (h : c.isDigit = true) : escapeChar c = [c] := by
  rcases escapeChar_cases c with ⟨e, -, -, escape⟩ | ⟨_, _, -, -, control⟩ | ⟨text, -⟩
  · revert escape
    fun_cases shortEscape? e <;> rintro ⟨⟩ <;> simp at h
  · have : 48 ≤ c.toNat := (Char.isDigit_iff_toNat.1 h).1
    omega
  · exact text

/-- Digits are spelled as they are. -/
theorem spell_text (n : Nat) : spell (Decimal.text n) = Decimal.digits n := by
  have single : ∀ c ∈ Decimal.digits n, escapeChar c = [c] := fun c hc =>
    escapeChar_of_isDigit (Decimal.isDigit_of_mem_digits hc)
  simp only [spell, Decimal.text, String.toList_ofList]
  rw [List.flatMap_congr single]
  simp

theorem NodeId.ofKey?_text {id : NodeId} (h : id ≤ maxNodeId) :
    ofKey? (spell (Decimal.text id)) = some id := by
  simp [ofKey?, spell_text, Decimal.ofDigits_digits, h]

/-! ### Graphs -/

/-- What is asked of a graph: numbers of nodes fit in 32 bits, and its nodes can be stored. -/
structure Graph.Storable (codec : FloatCodec) (g : Graph) : Prop where
  keys : ∀ id ∈ g.nodes.keys, id ≤ maxNodeId
  nodes : ∀ n ∈ g.nodes.values, n.Storable codec
  wires : ∀ w ∈ g.wires, w.source ≤ maxNodeId ∧ w.target ≤ maxNodeId

instance (g : Graph) : Decidable (g.Storable codec) :=
  decidable_of_iff ((∀ id ∈ g.nodes.keys, id ≤ maxNodeId) ∧
    (∀ n ∈ g.nodes.values, n.Storable codec) ∧
    ∀ w ∈ g.wires, w.source ≤ maxNodeId ∧ w.target ≤ maxNodeId)
    ⟨fun ⟨keys, nodes, wires⟩ => ⟨keys, nodes, wires⟩,
      fun ⟨keys, nodes, wires⟩ => ⟨keys, nodes, wires⟩⟩

theorem Graph.accepts {g : Graph} (h : g.Storable codec) :
    (Graph.decoder codec).Accepts depthLimit (g.store codec).toList g := by
  obtain ⟨name, readName, decodeName⟩ := accepts_string g.name
  obtain ⟨nodes, readNodes, decodeNodes⟩ := accepts_mapBy (m := g.nodes)
    (fun id hid => NodeId.ofKey?_text (h.keys id hid)) fun n hn => Node.accepts (h.nodes n hn)
  obtain ⟨wires, readWires, decodeWires⟩ := accepts_list fun w hw =>
    Wire.accepts (h.wires w hw).1 (h.wires w hw).2
  rw [Graph.store, String.toList_ofList]
  refine accepts_record [("name", name), ("nodes", nodes), ("connections", wires)]
    (.cons ⟨rfl, readName⟩ (.cons ⟨rfl, readNodes⟩ (.cons ⟨rfl, readWires⟩ .nil)))
    rfl (by decide) fun depth enough => ?_
  simp [Fields.need, List.lookup_cons, decodeName, decodeNodes depth enough,
    decodeWires depth (by omega)]

end

/-- However floats are written and read, the text of a graph stands for the graph if its floats are
read back from their texts, so that storing what is read gives the same text again.  Of the shortest
texts, read to the nearest float, this may be assumed: they give back all floats of 64 bits. -/
theorem Graph.restore?_store :
    (∀ (codec : FloatCodec) (g : Graph), g.Storable codec →
      restore? codec (g.store codec) = some g ∧
        (restore? codec (g.store codec)).map (store codec) = some (g.store codec)) ∧
    ∀ x, FloatFormat.double.Holds x → FloatCodec.nearest.KeepsDouble x := by
  refine ⟨fun codec g h => ?_, fun x => FloatCodec.keepsDouble_nearest⟩
  obtain ⟨doc, read, decode⟩ := accepts h
  have back : restore? codec (g.store codec) = some g := by
    rw [restore?, run?, Document.read?, read.ofChars?]
    exact decode depthLimit le_rfl
  exact ⟨back, by rw [back, Option.map_some]⟩

/-! ### A graph of rare values -/

namespace Sample

/-- Arrays inside each other. -/
def nested : Nat → Json
  | 0 => .arr []
  | n + 1 => .arr [nested n]

/-- Nodes under other numbers than their own, with the ends of all ranges of numbers, strings that
are full of escapes, data as deep as they may be, and wires that lead nowhere. -/
def curio : Graph where
  name := "a \"b\" \\ c\n\x00\x1f é😀"
  nodes := .ofList [
    (maxNodeId, {
      id := 7
      component := "Call\t/"
      data := .ofList [
        ("zero", .num (.float ⟨true, 0, 0⟩)),
        ("none", .num (.int 0)),
        ("least", .num (.int (-9223372036854775808))),
        ("greatest", .num (.int 18446744073709551615)),
        ("tenth", .num (.float ⟨false, 7205759403792794, 1018⟩)),
        ("tiny", .num (.float ⟨true, 1, 0⟩)),
        ("huge", .num (.float ⟨false, 9007199254740991, 2045⟩)),
        ("one", .num (.float ⟨false, 4503599627370496, 1022⟩)),
        ("", .obj [("", .null), ("\"", .arr [.bool true, .str "\\u0041"]), ("b", .obj [])]),
        ("deep", nested 122)]
      position := ⟨some ⟨true, 0, 0⟩, some ⟨true, 16777215, 253⟩⟩
      inputs := .ofList [("go", .flowIn "go" "\x08\x0c"),
        ("x", .input "other" "X" ⟨"int", false⟩)] }),
    (0, {
      id := 0
      component := ""
      outputs := .ofList [("y", .output "y" "" ⟨"any", true⟩ true),
        ("z", .input "z" "z" ⟨"", false⟩)] })]
  wires := [⟨0, "y", maxNodeId, "x"⟩, ⟨0, "y", maxNodeId, "x"⟩, ⟨5, "\r", 0, ""⟩]

theorem curio_storable : curio.Storable .standard := by decide +kernel

theorem restore?_store_curio : curio.Storable .standard ∧
    Graph.restore? .standard (curio.store .standard) = some curio ∧
    (Graph.restore? .standard (curio.store .standard)).map (Graph.store .standard) =
      some (curio.store .standard) :=
  ⟨curio_storable, Graph.restore?_store.1 .standard curio curio_storable⟩

end Sample

end FlowScript
