import RiggedScene.Proofs.Text.Split
import RiggedScene.Reference

/-!
# The pieces of a reference

A reference is cut into raw pieces from the left, and only then are the pieces decoded. So a
separator that is escaped is never cut at, and one that stands in a later piece is text.

* `Reference.Pieces` are the pieces as they are written, with `Pieces.text` to write them one after
  another and `Pieces.decoded` to read them;
* `Pieces.Separated` says which separators a piece must not hold, so that it ends where it does;
* `Reference.parse?_text` : separated pieces are read as they were written;
* `Reference.parse?_iff_pieces` : reading a reference is cutting it into separated pieces, and the
  reference is written with each of them in its canonical form.
-/

namespace RiggedScene

namespace Reference

/-- The pieces of a reference as they are written, each one without its separator. -/
structure Pieces where
  scheme : Option Scheme
  node : Option String
  file : String
  /-- The asset id, and the property path that may stand behind it. -/
  asset : Option (String × Option String)

namespace Pieces

variable (p : Pieces)

/-- A property path with its separator. -/
def propertyText : Option String → String
  | none => ""
  | some property => "?" ++ property

/-- An asset id and a property path with their separators. -/
def assetText : Option (String × Option String) → String
  | none => ""
  | some (asset, property) => "#" ++ asset ++ propertyText property

/-- What stands behind the node path. -/
def afterNode : String := p.file ++ assetText p.asset

/-- A node path with its separator. -/
def nodeText : Option String → String
  | none => ""
  | some node => node ++ ":"

/-- What stands behind the scheme. -/
def afterScheme : String := nodeText p.node ++ p.afterNode

/-- The pieces with their separators, one after another. -/
def text : String := p.scheme.elim "" Scheme.marker ++ p.afterScheme

/-- The separators that a piece must not hold. Later pieces may hold those of earlier ones. -/
structure Separated : Prop where
  /-- A scheme that is not known is no node path. -/
  scheme : p.scheme = none → ¬ schemeEnd <:+: p.text.toList
  node : ∀ node, p.node = some node → ':' ∉ node.toList
  noNode : p.node = none → ':' ∉ p.afterNode.toList
  file : '#' ∉ p.file.toList
  asset : ∀ asset property, p.asset = some (asset, property) → '?' ∉ asset.toList

/-- The reference that the pieces are read as; pieces that are not there are empty. -/
def decoded : Reference where
  scheme := p.scheme.getD .id
  nodePath := Percent.decode (p.node.getD "")
  filePath := Percent.decode p.file
  assetId := Percent.decode ((p.asset.map Prod.fst).getD "")
  propertyPath := Percent.decode ((p.asset.bind Prod.snd).getD "")
  explicitScheme := p.scheme.isSome
  hasNode := p.node.isSome
  hasAsset := p.asset.isSome
  hasProperty := (p.asset.bind Prod.snd).isSome

/-- Changes each piece. -/
def map (f : String → String) : Pieces where
  scheme := p.scheme
  node := p.node.map f
  file := f p.file
  asset := p.asset.map fun (asset, property) => (f asset, property.map f)

/-- The pieces in canonical escapes. -/
def canonical : Pieces := p.map fun piece => Percent.encode (Percent.decode piece)

/-- **A reference is written with each piece in canonical escapes.** -/
theorem text_decoded : p.decoded.text = p.canonical.text := by
  obtain ⟨scheme, node, file, asset⟩ := p
  cases scheme <;> cases node <;> rcases asset with _ | ⟨asset, _ | property⟩ <;>
    simp [Reference.text, decoded, canonical, map, text, afterScheme, nodeText, afterNode,
      assetText, propertyText, String.append_assoc]

end Pieces

/-! ### Reading separated pieces -/

variable {p : Pieces} {s : String}

theorem scheme?_eq_none_iff {cs : List Char} : scheme? cs = none ↔
    (∀ scheme : Scheme, ¬ scheme.marker.toList <+: cs) ∧ schemeEnd <:+: cs := by
  have hall : (∀ scheme : Scheme, ¬ scheme.marker.toList <+: cs) ↔
      ¬ Scheme.id.marker.toList <+: cs ∧ ¬ Scheme.name.marker.toList <+: cs :=
    ⟨fun h => ⟨h .id, h .name⟩, fun h scheme => by cases scheme; exacts [h.1, h.2]⟩
  rw [hall, ← Split.after?_eq_none_iff, ← Split.after?_eq_none_iff, ← Split.occurs_iff]
  unfold scheme?
  cases Split.after? Scheme.id.marker.toList cs with
  | some rest => simp
  | none =>
    cases Split.after? Scheme.name.marker.toList cs with
    | some rest => simp
    | none => simp

theorem schemeEnd_infix_of_marker {scheme : Scheme} {cs : List Char}
    (h : scheme.marker.toList <+: cs) : schemeEnd <:+: cs := by
  have hmarker : schemeEnd <:+: scheme.marker.toList := by cases scheme <;> decide
  exact hmarker.trans h.isInfix

theorem scheme?_text (h : p.Separated) :
    scheme? p.text.toList = some (p.scheme.getD .id, p.scheme.isSome, p.afterScheme.toList) := by
  cases hscheme : p.scheme with
  | none =>
    have htext : p.text = p.afterScheme := by simp [Pieces.text, hscheme]
    have hnot := h.scheme hscheme
    rw [htext] at hnot ⊢
    have hmarker (scheme : Scheme) :
        Split.after? scheme.marker.toList p.afterScheme.toList = none :=
      Split.after?_eq_none_iff.2 fun hprefix => hnot (schemeEnd_infix_of_marker hprefix)
    have hoccurs : Split.occurs schemeEnd p.afterScheme.toList = false := by
      simpa [← Split.occurs_iff] using hnot
    simp [scheme?, hmarker, hoccurs]
  | some scheme =>
    have htext : p.text.toList = scheme.marker.toList ++ p.afterScheme.toList := by
      simp [Pieces.text, hscheme]
    have hself := Split.after?_eq_some_iff.2 htext
    cases scheme with
    | id => simp [scheme?, hself]
    | name =>
      -- the markers differ in their first character
      have hother : Split.after? Scheme.id.marker.toList p.text.toList = none := by
        rw [htext]
        rfl
      simp [scheme?, hself, hother]

theorem leadingPart_afterScheme (h : p.Separated) :
    leadingPart ':' p.afterScheme.toList = (p.node.map String.toList, p.afterNode.toList) := by
  cases hnode : p.node with
  | none =>
    have htext : p.afterScheme = p.afterNode := by
      simp [Pieces.afterScheme, hnode, Pieces.nodeText]
    simp [leadingPart, htext, Split.cut_eq_none_iff.2 (h.noNode hnode)]
  | some node =>
    have htext : p.afterScheme.toList = node.toList ++ ':' :: p.afterNode.toList := by
      simp [Pieces.afterScheme, hnode, Pieces.nodeText]
    simp [leadingPart, htext, Split.cut_append (h.node node hnode)]

theorem decoded_toList (piece : Option String) :
    decoded (piece.map String.toList) = Percent.decode (piece.getD "") := by
  cases piece <;> simp [decoded]

theorem trailingPart_of_notMem {c : Char} {cs : List Char} (h : c ∉ cs) :
    trailingPart c cs = (cs, none) := by
  simp [trailingPart, Split.cut_eq_none_iff.2 h]

theorem trailingPart_append {c : Char} {part rest : List Char} (h : c ∉ part) :
    trailingPart c (part ++ c :: rest) = (part, some rest) := by
  simp [trailingPart, Split.cut_append h]

/-- **Separated pieces are read as they were written.** -/
theorem parse?_text (h : p.Separated) : parse? p.text = some p.decoded := by
  simp only [parse?, scheme?_text h, Option.map_some, leadingPart_afterScheme h, decoded_toList]
  cases hasset : p.asset with
  | none =>
    have htext : p.afterNode.toList = p.file.toList := by
      simp [Pieces.afterNode, hasset, Pieces.assetText]
    have hempty : trailingPart '?' [] = ([], none) := rfl
    rw [htext, trailingPart_of_notMem h.file, Option.getD_none, hempty]
    simp [Pieces.decoded, decoded, hasset]
  | some x =>
    obtain ⟨asset, property⟩ := x
    have hfree := h.asset asset property hasset
    cases property with
    | none =>
      have htext : p.afterNode.toList = p.file.toList ++ '#' :: asset.toList := by
        simp [Pieces.afterNode, hasset, Pieces.assetText, Pieces.propertyText]
      rw [htext, trailingPart_append h.file, Option.getD_some, trailingPart_of_notMem hfree]
      simp [Pieces.decoded, decoded, hasset]
    | some property =>
      have htext : p.afterNode.toList =
          p.file.toList ++ '#' :: (asset.toList ++ '?' :: property.toList) := by
        simp [Pieces.afterNode, hasset, Pieces.assetText, Pieces.propertyText]
      rw [htext, trailingPart_append h.file, Option.getD_some, trailingPart_append hfree]
      simp [Pieces.decoded, decoded, hasset]

/-! ### Cutting into pieces -/

theorem exists_first (c : Char) (s : String) : c ∉ s.toList ∨
    ∃ part rest : String, s = part ++ String.singleton c ++ rest ∧ c ∉ part.toList := by
  cases hcut : Split.cut c s.toList with
  | none => exact .inl (Split.cut_eq_none_iff.1 hcut)
  | some x =>
    obtain ⟨part, rest⟩ := x
    obtain ⟨hs, hnot⟩ := Split.of_cut hcut
    refine .inr ⟨.ofList part, .ofList rest, ?_, by simpa using hnot⟩
    rw [← String.toList_inj]
    simp [hs]

theorem exists_property (s : String) : ∃ asset property,
    asset ++ Pieces.propertyText property = s ∧ '?' ∉ asset.toList := by
  rcases exists_first '?' s with hnone | ⟨asset, property, rfl, hasset⟩
  · exact ⟨s, none, by simp [Pieces.propertyText], hnone⟩
  · exact ⟨asset, some property, by simp [Pieces.propertyText, String.append_assoc], hasset⟩

theorem exists_asset (s : String) : ∃ file asset, file ++ Pieces.assetText asset = s ∧
    '#' ∉ file.toList ∧ ∀ id property, asset = some (id, property) → '?' ∉ id.toList := by
  rcases exists_first '#' s with hnone | ⟨file, rest, rfl, hfile⟩
  · exact ⟨s, none, by simp [Pieces.assetText], hnone, nofun⟩
  · obtain ⟨id, property, rfl, hid⟩ := exists_property rest
    refine ⟨file, some (id, property), ?_, hfile, ?_⟩
    · simp [Pieces.assetText, String.append_assoc]
    · rintro _ _ ⟨⟩
      exact hid

theorem exists_scheme (h : scheme? s.toList ≠ none) : ∃ scheme rest,
    Option.elim scheme "" Scheme.marker ++ rest = s ∧
      (scheme = none → ¬ schemeEnd <:+: s.toList) := by
  by_cases hmarked : ∃ scheme : Scheme, scheme.marker.toList <+: s.toList
  · obtain ⟨scheme, rest, hrest⟩ := hmarked
    refine ⟨some scheme, .ofList rest, ?_, nofun⟩
    rw [← String.toList_inj]
    simp [hrest]
  · have hend : ¬ schemeEnd <:+: s.toList := fun hend =>
      h (scheme?_eq_none_iff.2 ⟨not_exists.1 hmarked, hend⟩)
    exact ⟨none, s, by simp, fun _ => hend⟩

/-- **A text whose scheme is not unknown can be cut into separated pieces.** -/
theorem exists_separated (h : scheme? s.toList ≠ none) :
    ∃ p : Pieces, p.Separated ∧ p.text = s := by
  obtain ⟨scheme, rest, hs, hscheme⟩ := exists_scheme h
  rcases exists_first ':' rest with hnone | ⟨node, rest', rfl, hnode⟩
  · obtain ⟨file, asset, rfl, hfile, hasset⟩ := exists_asset rest
    have htext : (⟨scheme, none, file, asset⟩ : Pieces).text = s := by
      simp [Pieces.text, Pieces.afterScheme, Pieces.nodeText, Pieces.afterNode, hs]
    refine ⟨⟨scheme, none, file, asset⟩, ?_, htext⟩
    exact ⟨htext.symm ▸ hscheme, nofun, fun _ => hnone, hfile, hasset⟩
  · obtain ⟨file, asset, rfl, hfile, hasset⟩ := exists_asset rest'
    have htext : (⟨scheme, some node, file, asset⟩ : Pieces).text = s := by
      simp [Pieces.text, Pieces.afterScheme, Pieces.nodeText, Pieces.afterNode, ← hs,
        String.append_assoc]
    refine ⟨⟨scheme, some node, file, asset⟩, ?_, htext⟩
    refine ⟨htext.symm ▸ hscheme, ?_, nofun, hfile, hasset⟩
    rintro _ ⟨⟩
    exact hnode

/-- **Reading a reference is cutting it into separated pieces.** It is refused exactly when no
marker of a scheme begins it and the end of one occurs in it. Otherwise the reference is that of the
pieces, and it is written with each piece in canonical escapes, so that nothing changes if they were
so already. -/
theorem parse?_iff_pieces (s : String) :
    (parse? s = none ↔
      (∀ scheme : Scheme, ¬ scheme.marker.toList <+: s.toList) ∧ schemeEnd <:+: s.toList) ∧
    ∀ r, parse? s = some r ↔ ∃ p : Pieces, p.Separated ∧ p.text = s ∧ p.decoded = r ∧
      r.text = p.canonical.text ∧ (p.canonical = p → r.text = s) := by
  have hnone : parse? s = none ↔ scheme? s.toList = none := Option.map_eq_none_iff
  refine ⟨hnone.trans scheme?_eq_none_iff, fun r => ⟨fun hr => ?_, ?_⟩⟩
  · have hscheme : scheme? s.toList ≠ none := fun h => by simp [hnone.2 h] at hr
    obtain ⟨p, hp, rfl⟩ := exists_separated hscheme
    obtain rfl : p.decoded = r := Option.some.inj ((parse?_text hp).symm.trans hr)
    exact ⟨p, hp, rfl, rfl, p.text_decoded, fun hcanonical => by rw [p.text_decoded, hcanonical]⟩
  · rintro ⟨p, hp, rfl, rfl, -⟩
    exact parse?_text hp

end Reference

end RiggedScene
