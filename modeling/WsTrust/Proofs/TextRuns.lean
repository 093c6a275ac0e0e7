import WsTrust.Proofs.Bindings

/-!
# Runs of texts

A document does not show where one text ends and the next one begins, nor
that a text is empty.  Texts that stand side by side are therefore joined, and
empty ones dropped, before two fragments are compared.  Neither touches a
tag.
-/

namespace WsTrust

namespace Node

/-- The nodes with one more in front; two texts that meet are joined. -/
def prepend : Node → List Node → List Node
  | .text content, .text following :: rest =>
      .text (content ++ following) :: rest
  | node, nodes => node :: nodes

mutual

def joinTexts : Node → Node
  | .text content => .text content
  | .element name attributes children =>
      .element name attributes (joinTextsAll children)

def joinTextsAll : List Node → List Node
  | [] => []
  | node :: rest => prepend node.joinTexts (joinTextsAll rest)

end

def isEmptyText : Node → Bool
  | .text content => content.isEmpty
  | .element .. => false

mutual

def dropEmptyTexts : Node → Node
  | .text content => .text content
  | .element name attributes children =>
      .element name attributes (dropEmptyTextsAll children)

def dropEmptyTextsAll : List Node → List Node
  | [] => []
  | node :: rest =>
      if node.isEmptyText then
        dropEmptyTextsAll rest
      else
        node.dropEmptyTexts :: dropEmptyTextsAll rest

end

/-! ## Joining -/

theorem prepend_text_prepend_text
    (first second : String) (nodes : List Node) :
    prepend (.text first) (prepend (.text second) nodes) =
      prepend (.text (first ++ second)) nodes := by
  cases nodes with
  | nil => rfl
  | cons node rest =>
      cases node with
      | text content => simp [prepend, String.append_assoc]
      | element name attributes children => rfl

theorem everyTagOfAll_prepend
    (condition : Bindings → StartTag → Prop) (outer : Bindings)
    (node : Node) (nodes : List Node) :
    EveryTagOfAll condition outer (prepend node nodes) ↔
      node.EveryTag condition outer ∧
        EveryTagOfAll condition outer nodes := by
  cases node with
  | element name attributes children => exact Iff.rfl
  | text content =>
      cases nodes with
      | nil => exact Iff.rfl
      | cons first rest =>
          cases first with
          | text following =>
              exact iff_and_self.mpr fun _ => trivial
          | element name attributes children => exact Iff.rfl

mutual

/-- Joining texts touches no tag. -/
theorem everyTag_joinTexts_iff
    (condition : Bindings → StartTag → Prop) (outer : Bindings)
    (node : Node) :
    node.joinTexts.EveryTag condition outer ↔
      node.EveryTag condition outer := by
  cases node with
  | text content => exact Iff.rfl
  | element name attributes children =>
      rw [joinTexts, EveryTag, EveryTag, everyTagOfAll_joinTextsAll_iff]

theorem everyTagOfAll_joinTextsAll_iff
    (condition : Bindings → StartTag → Prop) (outer : Bindings)
    (nodes : List Node) :
    EveryTagOfAll condition outer (joinTextsAll nodes) ↔
      EveryTagOfAll condition outer nodes := by
  cases nodes with
  | nil => exact Iff.rfl
  | cons node rest =>
      rw [joinTextsAll, everyTagOfAll_prepend, EveryTagOfAll,
        everyTag_joinTexts_iff, everyTagOfAll_joinTextsAll_iff]

end

theorem heightOfAll_prepend (node : Node) (nodes : List Node) :
    heightOfAll (prepend node nodes) =
      max node.height (heightOfAll nodes) := by
  cases node with
  | element name attributes children => rfl
  | text content =>
      cases nodes with
      | nil => rfl
      | cons first rest =>
          cases first with
          | text following => exact (Nat.zero_max _).symm
          | element name attributes children => rfl

mutual

theorem height_joinTexts (node : Node) :
    node.joinTexts.height = node.height := by
  cases node with
  | text content => rfl
  | element name attributes children =>
      rw [joinTexts, height, height, heightOfAll_joinTextsAll]

theorem heightOfAll_joinTextsAll (nodes : List Node) :
    heightOfAll (joinTextsAll nodes) = heightOfAll nodes := by
  cases nodes with
  | nil => rfl
  | cons node rest =>
      rw [joinTextsAll, heightOfAll_prepend, height_joinTexts,
        heightOfAll_joinTextsAll, heightOfAll]

end

/-! ## Dropping empty texts -/

theorem length_dropEmptyTextsAll_le (nodes : List Node) :
    (dropEmptyTextsAll nodes).length ≤ nodes.length := by
  induction nodes with
  | nil => exact Nat.le_refl 0
  | cons node rest inductionHypothesis =>
      rw [dropEmptyTextsAll]
      by_cases empty : node.isEmptyText
      · rw [if_pos empty, List.length_cons]
        omega
      · rw [if_neg empty, List.length_cons, List.length_cons]
        omega

theorem length_reboundAll (outer : Bindings) (nodes : List Node) :
    (reboundAll outer nodes).length = nodes.length := by
  induction nodes with
  | nil => rfl
  | cons node rest inductionHypothesis =>
      rw [reboundAll, List.length_cons, List.length_cons,
        inductionHypothesis]

end Node

/-! ## What is the same after rebinding -/

theorem Attribute.namespaceUri_of_erasePrefix_rebound
    {inner : Bindings} {whole : Attribute}
    (same : (whole.rebound inner).erasePrefix = whole.erasePrefix) :
    whole.name.namespaceUri = inner.ofAttribute whole.name := by
  have sameName := congrArg Attribute.name same
  have sameUri := congrArg (fun name => name.namespaceUri) sameName
  exact sameUri.symm

theorem StartTag.isBound_of_erasePrefixes
    {inner : Bindings} {tag : StartTag}
    (same : (tag.rebound inner).erasePrefixes = tag.erasePrefixes) :
    tag.IsBound inner := by
  constructor
  · have sameName := congrArg StartTag.name same
    have sameUri := congrArg (fun name => name.namespaceUri) sameName
    exact sameUri.symm
  · have sameAttributes := congrArg StartTag.attributes same
    simp only [erasePrefixes, rebound, List.map_map] at sameAttributes
    intro each member
    exact Attribute.namespaceUri_of_erasePrefix_rebound
      (List.map_inj_left.mp sameAttributes each member)

namespace Node

theorem isEmptyText_rebound (outer : Bindings) (node : Node) :
    (node.rebound outer).isEmptyText = node.isEmptyText := by
  cases node with
  | text content => rfl
  | element name attributes children => rfl

mutual

/-- A node that stays the same up to prefixes when it is rebound and rid of
empty texts is bound as it is, and has no empty text in it. -/
theorem isBound_of_erasePrefixes
    {outer : Bindings} {node : Node}
    (same : (node.rebound outer).dropEmptyTexts.erasePrefixes =
      node.erasePrefixes) :
    node.EveryTag (fun inner tag => tag.IsBound inner) outer ∧
      node.dropEmptyTexts = node := by
  cases node with
  | text content => exact ⟨trivial, rfl⟩
  | element name attributes children =>
      obtain ⟨sameName, sameAttributes, sameChildren⟩ :=
        Node.element.inj same
      have sameTag :
          (StartTag.rebound (outer.declareAll attributes)
              ⟨name, attributes⟩).erasePrefixes =
            StartTag.erasePrefixes ⟨name, attributes⟩ :=
        congrArg₂ StartTag.mk sameName sameAttributes
      obtain ⟨boundInside, unchanged⟩ :=
        isBound_of_erasePrefixesAll sameChildren
      refine ⟨⟨StartTag.isBound_of_erasePrefixes sameTag, boundInside⟩, ?_⟩
      rw [dropEmptyTexts, unchanged]

theorem isBound_of_erasePrefixesAll
    {outer : Bindings} {nodes : List Node}
    (same :
      erasePrefixesAll (dropEmptyTextsAll (reboundAll outer nodes)) =
        erasePrefixesAll nodes) :
    EveryTagOfAll (fun inner tag => tag.IsBound inner) outer nodes ∧
      dropEmptyTextsAll nodes = nodes := by
  cases nodes with
  | nil => exact ⟨trivial, rfl⟩
  | cons node rest =>
      rw [reboundAll, dropEmptyTextsAll, isEmptyText_rebound] at same
      by_cases empty : node.isEmptyText
      · rw [if_pos empty] at same
        have sameLength := congrArg List.length same
        simp only [erasePrefixesAll_eq_map, List.length_map,
          List.length_cons] at sameLength
        have shorter := length_dropEmptyTextsAll_le (reboundAll outer rest)
        rw [length_reboundAll] at shorter
        omega
      · rw [if_neg empty] at same
        obtain ⟨sameNode, sameRest⟩ := List.cons.inj same
        obtain ⟨bound, unchanged⟩ := isBound_of_erasePrefixes sameNode
        obtain ⟨restBound, restUnchanged⟩ :=
          isBound_of_erasePrefixesAll sameRest
        refine ⟨⟨bound, restBound⟩, ?_⟩
        rw [dropEmptyTextsAll, if_neg empty, unchanged, restUnchanged]

end

end Node

namespace Element

def joinTexts (element : Element) : Element :=
  { element with children := Node.joinTextsAll element.children }

def dropEmptyTexts (element : Element) : Element :=
  { element with children := Node.dropEmptyTextsAll element.children }

/-- The element with its names in the namespaces that their prefixes are bound
to by the declarations inside it. -/
def rebound (element : Element) : Element :=
  let inner := Bindings.initial.declareAll element.attributes
  ⟨element.name.inNamespace (inner.ofElement element.name),
    element.attributes.map (Attribute.rebound inner),
    Node.reboundAll inner element.children⟩

variable (element : Element)

theorem isSelfContained_joinTexts_iff :
    element.joinTexts.IsSelfContained ↔ element.IsSelfContained :=
  Node.everyTag_joinTexts_iff _ _ element.toNode

variable {element}

theorem IsSelfContained.rebound_eq (contained : element.IsSelfContained) :
    element.rebound = element := by
  have bound : element.toNode.rebound .initial = element.toNode := by
    rw [Node.rebound_eq_self_iff]
    exact Node.EveryTag.mono (fun _ _ both => both.2) contained
  exact toNode_inj bound

/-- An element that stays the same up to prefixes when it is rebound and rid of
empty texts is bound as it is, and has no empty text. -/
theorem isBound_of_same
    (same : element.rebound.dropEmptyTexts.same element = true) :
    element.toNode.EveryTag (fun inner tag => tag.IsBound inner) .initial ∧
      element.dropEmptyTexts = element := by
  have equality :
      (element.toNode.rebound .initial).dropEmptyTexts.erasePrefixes =
        element.toNode.erasePrefixes :=
    congrArg toNode (beq_iff_eq.mp same)
  obtain ⟨bound, unchanged⟩ := Node.isBound_of_erasePrefixes equality
  exact ⟨bound, toNode_inj unchanged⟩

end Element

end WsTrust
