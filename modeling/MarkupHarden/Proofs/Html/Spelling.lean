import MarkupHarden.Proofs.Html.Building
import MarkupHarden.Proofs.Html.Lexing

/-!
# Spelling

Tags carry names in lower case, and inside SVG and MathML some of them are
spelled otherwise.  An element is `Spelled` when the names of its start tag,
spelled again, give the element back.
-/

namespace MarkupHarden.Html

open Dom (Attributes Element Namespace)

/-! ### Spelled names -/

private theorem getD_lookup_mem (table : List (String × String))
    (name : String) :
    (table.lookup name).getD name = name ∨
      (name, (table.lookup name).getD name) ∈ table := by
  cases found : table.lookup name with
  | none => exact Or.inl rfl
  | some spelling =>
      right
      induction table with
      | nil => contradiction
      | cons pair rest induction =>
          obtain ⟨key, value⟩ := pair
          rw [List.lookup_cons] at found
          split at found
          next same =>
            cases found
            rw [beq_iff_eq.mp same]
            exact List.mem_cons_self
          next => exact List.mem_cons_of_mem _ (induction found)

private theorem svgElementNames_facts : ∀ pair ∈ svgElementNames,
    Text.lower pair.2 = pair.1 ∧ IsTagName pair.2 := by
  decide

private theorem svgAttributeNames_facts : ∀ pair ∈ svgAttributeNames,
    Text.lower pair.2 = pair.1 ∧ IsAttributeName pair.2 := by
  decide

theorem lower_elementSpelling {name : String} (lower : Text.lower name = name)
    (ns : Namespace) : Text.lower (elementSpelling ns name) = name := by
  cases ns with
  | html => exact lower
  | mathml => exact lower
  | svg =>
      rcases getD_lookup_mem svgElementNames name with same | member
      · rw [elementSpelling, same, lower]
      · exact (svgElementNames_facts _ member).1

theorem isTagName_elementSpelling {name : String} (tagName : IsTagName name)
    (ns : Namespace) : IsTagName (elementSpelling ns name) := by
  cases ns with
  | html => exact tagName
  | mathml => exact tagName
  | svg =>
      rcases getD_lookup_mem svgElementNames name with same | member
      · rw [elementSpelling, same]
        exact tagName
      · exact (svgElementNames_facts _ member).2

theorem lower_attributeSpelling {key : String} (lower : Text.lower key = key)
    (ns : Namespace) : Text.lower (attributeSpelling ns key) = key := by
  cases ns with
  | html => exact lower
  | mathml =>
      rw [attributeSpelling]
      split
      next same =>
        rw [same]
        decide
      next => exact lower
  | svg =>
      rcases getD_lookup_mem svgAttributeNames key with same | member
      · rw [attributeSpelling, same, lower]
      · exact (svgAttributeNames_facts _ member).1

theorem isAttributeName_attributeSpelling {key : String}
    (named : IsAttributeName key) (ns : Namespace) :
    IsAttributeName (attributeSpelling ns key) := by
  cases ns with
  | html => exact named
  | mathml =>
      rw [attributeSpelling]
      split
      · decide
      · exact named
  | svg =>
      rcases getD_lookup_mem svgAttributeNames key with same | member
      · rw [attributeSpelling, same]
        exact named
      · exact (svgAttributeNames_facts _ member).2

/-! ### Tags -/

/-- Attributes that a start tag can be read with. -/
structure AreTagAttributes (attributes : TagAttributes) : Prop where
  keys : ∀ pair ∈ attributes, IsAttributeName pair.1
  lowerKeys : ∀ pair ∈ attributes, Text.lower pair.1 = pair.1
  distinct : (attributes.map Prod.fst).Nodup

/-- The name and attributes that a start tag can be read with. -/
structure IsTag (name : String) (attributes : TagAttributes) : Prop extends
    AreTagAttributes attributes where
  tagName : IsTagName name
  lowerName : Text.lower name = name

theorem areTagAttributes_nil : AreTagAttributes [] :=
  ⟨by simp, by simp, List.nodup_nil⟩

/-- The element that a start tag stands for in a namespace. -/
def elementOf (ns : Namespace) (name : String) (attributes : TagAttributes) :
    Element :=
  (Element.named (elementSpelling ns name) ns).addAttributes
    (attributes.map fun pair => (attributeSpelling ns pair.1, pair.2))

/-- An element whose names, read in lower case and spelled again, are its
own. -/
structure Spelled (element : Element) : Prop where
  safe : TagSafe element
  name : elementSpelling element.ns (Text.lower element.localName) =
    element.localName
  keys : ∀ pair ∈ element.attributes,
    attributeSpelling element.ns (Text.lower pair.1) = pair.1

theorem elementOf_html (name : String) (attributes : TagAttributes) :
    elementOf .html name attributes =
      (Element.html name).addAttributes attributes := by
  have same : (attributes.map fun pair =>
      (attributeSpelling .html pair.1, pair.2)) = attributes :=
    List.map_id attributes
  rw [elementOf, same]
  rfl

theorem IsTag.map_lower_spelling {name : String} {attributes : TagAttributes}
    (tag : IsTag name attributes) (ns : Namespace) :
    attributes.map (Text.lower ∘ fun pair => attributeSpelling ns pair.1) =
      attributes.map Prod.fst :=
  List.map_congr_left fun pair member =>
    lower_attributeSpelling (tag.lowerKeys pair member) ns

/-- An element holds the attributes of its tag in order. -/
theorem elementOf_eq {ns : Namespace} {name : String}
    {attributes : TagAttributes} (tag : IsTag name attributes) :
    elementOf ns name attributes =
      { localName := elementSpelling ns name
        ns
        attributes := attributes.map fun pair =>
          (attributeSpelling ns pair.1, pair.2) } := by
  have named : Element.named (elementSpelling ns name) ns =
      { localName := elementSpelling ns name, ns } := by
    cases ns with
    | html => simp only [Element.named, elementSpelling, tag.lowerName]
    | svg => rfl
    | mathml => rfl
  have isKey : ∀ pair ∈ attributes.map fun pair =>
      (attributeSpelling ns pair.1, pair.2),
      ({ localName := elementSpelling ns name, ns } : Element).attributeKey
        pair.1 = pair.1 := by
    intro pair member
    obtain ⟨old, oldMember, rfl⟩ := List.mem_map.mp member
    cases ns with
    | html => exact tag.lowerKeys old oldMember
    | svg => rfl
    | mathml => rfl
  have distinct : (attributes.map fun pair =>
      attributeSpelling ns pair.1).Nodup := by
    apply List.Nodup.of_map Text.lower
    rw [List.map_map, tag.map_lower_spelling]
    exact tag.distinct
  rw [elementOf, named, Element.addAttributes_eq _ _ isKey]
  · rfl
  · simpa [Attributes.keys, Function.comp_def] using distinct

theorem spelled_elementOf {ns : Namespace} {name : String}
    {attributes : TagAttributes} (tag : IsTag name attributes) :
    Spelled (elementOf ns name attributes) := by
  rw [elementOf_eq tag]
  refine ⟨⟨isTagName_elementSpelling tag.tagName ns, ?_, ?_⟩, ?_, ?_⟩
  · intro pair member
    obtain ⟨old, oldMember, rfl⟩ := List.mem_map.mp member
    exact isAttributeName_attributeSpelling (tag.keys old oldMember) ns
  · have distinct := tag.distinct
    rw [← tag.map_lower_spelling ns] at distinct
    rw [List.map_map]
    exact distinct
  · rw [lower_elementSpelling tag.lowerName]
  · intro pair member
    obtain ⟨old, oldMember, rfl⟩ := List.mem_map.mp member
    simp only [lower_attributeSpelling (tag.lowerKeys old oldMember)]

namespace Spelled

variable {element : Element}

theorem isTag (spelled : Spelled element) :
    IsTag (Text.lower element.localName) (tagAttributes element) where
  tagName := spelled.safe.name.lower
  lowerName := Text.lower_lower _
  keys := by
    intro pair member
    obtain ⟨old, oldMember, rfl⟩ := List.mem_map.mp member
    exact (spelled.safe.attributes old oldMember).lower
  lowerKeys := by
    intro pair member
    obtain ⟨old, _, rfl⟩ := List.mem_map.mp member
    exact Text.lower_lower _
  distinct := by
    rw [tagAttributes, List.map_map]
    exact spelled.safe.distinct

/-- The start tag of a spelled element stands for the element. -/
theorem elementOf_eq (spelled : Spelled element) :
    elementOf element.ns (Text.lower element.localName)
      (tagAttributes element) = element := by
  have same : (tagAttributes element).map (fun pair =>
      (attributeSpelling element.ns pair.1, pair.2)) =
        element.attributes := by
    rw [tagAttributes, List.map_map]
    calc element.attributes.map _
        = element.attributes.map id :=
          List.map_congr_left fun pair member => by
            simp only [Function.comp_apply, spelled.keys pair member]
            rfl
      _ = element.attributes := List.map_id _
  rw [Html.elementOf_eq spelled.isTag, spelled.name, same]

private theorem addAttribute (spelled : Spelled element)
    (html : element.ns = .html) {key : String} (named : IsAttributeName key)
    (lower : Text.lower key = key) (value : String) :
    Spelled (element.addAttribute key value).2 ∧
      (element.addAttribute key value).2.ns = .html := by
  have isKey : element.attributeKey key = key := by
    rw [Element.attributeKey, html]
    exact lower
  by_cases present : key ∈ element.attributes.keys
  · have has : element.hasAttribute key = true := by
      rw [Element.hasAttribute, Attributes.has, isKey, ← Option.ne_none_iff_isSome]
      exact fun none => Attributes.find?_eq_none_iff.mp none present
    rw [Element.addAttribute, if_pos has]
    exact ⟨spelled, html⟩
  · have lowered : element.attributes.map (fun pair => Text.lower pair.1) =
        element.attributes.map Prod.fst := by
      apply List.map_congr_left
      intro pair member
      have key := spelled.keys pair member
      rw [html] at key
      exact key
    rw [Element.addAttribute_of_not_mem isKey present]
    refine ⟨⟨⟨spelled.safe.name, ?_, ?_⟩, spelled.name, ?_⟩, html⟩
    · intro pair member
      rcases List.mem_append.mp member with old | new
      · exact spelled.safe.attributes pair old
      · rw [List.mem_singleton.mp new]
        exact named
    · rw [List.map_append, lowered, List.map_singleton, lower,
        List.nodup_append]
      refine ⟨lowered ▸ spelled.safe.distinct, List.nodup_singleton _, ?_⟩
      intro other member new isNew same
      rw [List.mem_singleton.mp isNew] at same
      exact present (same ▸ member)
    · intro pair member
      rcases List.mem_append.mp member with old | new
      · exact spelled.keys pair old
      · rw [List.mem_singleton.mp new, html]
        exact lower

/-- An HTML element can get the attributes of a tag. -/
theorem addAttributes {attributes : TagAttributes}
    (spelled : Spelled element) (html : element.ns = .html)
    (are : AreTagAttributes attributes) :
    Spelled (element.addAttributes attributes) := by
  induction attributes generalizing element with
  | nil => exact spelled
  | cons pair attributes induction =>
      obtain ⟨added, addedHtml⟩ := spelled.addAttribute html
        (are.keys pair List.mem_cons_self)
        (are.lowerKeys pair List.mem_cons_self) pair.2
      apply induction added addedHtml
      exact ⟨fun other member => are.keys other (List.mem_cons_of_mem _ member),
        fun other member =>
          are.lowerKeys other (List.mem_cons_of_mem _ member),
        (List.nodup_cons.mp are.distinct).2⟩

end Spelled

end MarkupHarden.Html
