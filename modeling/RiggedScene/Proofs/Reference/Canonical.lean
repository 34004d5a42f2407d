import RiggedScene.Proofs.Reference.Pieces
import RiggedScene.Proofs.Text.Percent

/-!
# References that are written and read again

In canonical escapes no piece holds a separator. So a reference that is written is read as it was,
unless its first pieces run together to what looks like a scheme: slashes are written as they are,
and a node path in front of two of them ends in `://`.

* `Reference.MimicsScheme` is that case;
* `Reference.Pieces.separated_escaped_iff` : only the scheme can keep escaped pieces from being read
  as they were written;
* `Reference.parse?_text_eq_iff` : which references are read as they were, and which are refused.
-/

namespace RiggedScene

/-- The name of a scheme, without the end of its marker. -/
def Scheme.word : Scheme → String
  | id => "id"
  | name => "name"

namespace Reference

/-- What a file path begins with that looks like the end of a scheme behind a node path. -/
def doubleSlash : List Char := "//".toList

/-- Written without a scheme, and the node path and the beginning of the file path look like one. -/
def MimicsScheme (r : Reference) : Prop :=
  r.explicitScheme = false ∧ r.hasNode = true ∧ doubleSlash <+: r.filePath.toList

instance : DecidablePred MimicsScheme := fun _ => inferInstanceAs (Decidable (_ ∧ _ ∧ _))

namespace Pieces

variable {p : Pieces}

/-- The pieces, each one escaped. -/
def escaped (p : Pieces) : Pieces := p.map Percent.encode

theorem canonical_eq_escaped : p.canonical = (p.map Percent.decode).escaped := by
  obtain ⟨scheme, node, file, asset⟩ := p
  cases node <;> rcases asset with _ | ⟨asset, _ | property⟩ <;> simp [canonical, escaped, map]

theorem decoded_canonical : p.canonical.decoded = p.decoded := by
  obtain ⟨scheme, node, file, asset⟩ := p
  cases node <;> rcases asset with _ | ⟨asset, _ | property⟩ <;> simp [decoded, canonical, map]

/-! ### Separators in escaped pieces -/

theorem colon_notMem_encode (s : String) : ':' ∉ (Percent.encode s).toList :=
  fun h => absurd (Percent.unescaped_of_mem_encode h) (by decide)

theorem colon_notMem_afterNode : ':' ∉ p.escaped.afterNode.toList := by
  obtain ⟨scheme, node, file, asset⟩ := p
  rcases asset with _ | ⟨asset, _ | property⟩ <;>
    simp [escaped, map, afterNode, assetText, propertyText, colon_notMem_encode]

theorem unescaped_of_mem_doubleSlash : ∀ c ∈ doubleSlash, Percent.Unescaped c := by
  intro c hc
  obtain rfl : c = '/' := by simpa [doubleSlash] using hc
  decide

theorem doubleSlash_prefix_afterNode :
    doubleSlash <+: p.escaped.afterNode.toList ↔ doubleSlash <+: p.file.toList := by
  rw [← Percent.prefix_encode_iff unescaped_of_mem_doubleSlash p.file]
  cases hasset : p.asset with
  | none => simp [escaped, map, afterNode, assetText, hasset]
  | some x =>
    have htext : p.escaped.afterNode.toList = (Percent.encode p.file).toList ++
        '#' :: (Percent.encode x.1 ++ propertyText (x.2.map Percent.encode)).toList := by
      simp [escaped, map, afterNode, assetText, hasset, String.append_assoc]
    rw [htext, Split.prefix_append_cons_iff (by decide)]

/-- The text of escaped pieces without scheme, cut at the end of the node path. -/
theorem text_of_node {node : String} (hscheme : p.scheme = none) (hnode : p.node = some node) :
    p.escaped.text.toList =
      (Percent.encode node).toList ++ ':' :: p.escaped.afterNode.toList := by
  simp [escaped, map, text, afterScheme, nodeText, hscheme, hnode]

theorem schemeEnd_infix_iff (hscheme : p.scheme = none) :
    schemeEnd <:+: p.escaped.text.toList ↔ p.node.isSome ∧ doubleSlash <+: p.file.toList := by
  cases hnode : p.node with
  | none =>
    -- only a scheme or the end of a node path is written with a colon
    have htext : p.escaped.text = p.escaped.afterNode := by
      simp [escaped, map, text, afterScheme, nodeText, hscheme, hnode]
    have hnot : ¬ schemeEnd <:+: p.escaped.text.toList := fun h =>
      colon_notMem_afterNode (p := p) (htext ▸ h.subset (List.mem_cons_self (l := doubleSlash)))
    simp [hnot]
  | some node =>
    have hend : schemeEnd = ':' :: doubleSlash := rfl
    rw [text_of_node hscheme hnode, hend,
      Split.infix_append_cons_iff (colon_notMem_encode node) colon_notMem_afterNode,
      doubleSlash_prefix_afterNode]
    simp

/-- **Escaped pieces are separated unless they mimic a scheme.** -/
theorem separated_escaped_iff : p.escaped.Separated ↔
    ¬ (p.scheme = none ∧ p.node.isSome ∧ doubleSlash <+: p.file.toList) := by
  have hnotMem {c : Char} (hc : ¬ (c = '%' ∨ Percent.Unescaped c)) (s : String) :
      c ∉ (Percent.encode s).toList := fun h => hc (Percent.unescaped_of_mem_encode h)
  constructor
  · rintro h ⟨hscheme, hmimics⟩
    exact h.scheme hscheme ((schemeEnd_infix_iff hscheme).2 hmimics)
  · intro hnot
    refine ⟨fun hscheme hend => hnot ⟨hscheme, (schemeEnd_infix_iff (p := p) hscheme).1 hend⟩, ?_,
      fun _ => colon_notMem_afterNode, hnotMem (by decide) p.file, ?_⟩
    · rintro node hnode
      obtain ⟨node, -, rfl⟩ := Option.map_eq_some_iff.1 hnode
      exact colon_notMem_encode node
    · rintro asset property hasset
      obtain ⟨⟨asset, property⟩, -, h⟩ := Option.map_eq_some_iff.1 hasset
      obtain ⟨rfl, -⟩ := Prod.mk.inj h
      exact hnotMem (by decide) asset

theorem marker_prefix_iff {node : String} (hscheme : p.scheme = none) (hnode : p.node = some node)
    (hfile : doubleSlash <+: p.file.toList) (scheme : Scheme) :
    scheme.marker.toList <+: p.escaped.text.toList ↔ node = scheme.word := by
  have hmarker : scheme.marker.toList = scheme.word.toList ++ ':' :: doubleSlash := by
    cases scheme <;> rfl
  have hword : ':' ∉ scheme.word.toList := by cases scheme <;> decide
  have hencode : Percent.encode scheme.word = scheme.word := by cases scheme <;> rfl
  rw [text_of_node hscheme hnode, hmarker]
  constructor
  · rintro ⟨rest, hrest⟩
    -- both are cut at their first colon
    rw [List.append_assoc, List.cons_append] at hrest
    have hcut := congrArg (Split.cut ':') hrest
    rw [Split.cut_append hword, Split.cut_append (colon_notMem_encode node)] at hcut
    have hsame : scheme.word = Percent.encode node :=
      String.toList_inj.1 (Prod.mk.inj (Option.some.inj hcut)).1
    calc node
      _ = Percent.decode (Percent.encode node) := (Percent.decode_encode node).symm
      _ = Percent.decode (Percent.encode scheme.word) := by rw [hencode, hsame]
      _ = scheme.word := Percent.decode_encode scheme.word
  · rintro rfl
    rw [hencode, List.prefix_append_right_inj, List.cons_prefix_cons]
    exact ⟨rfl, doubleSlash_prefix_afterNode.2 hfile⟩

end Pieces

variable {s : String} {r : Reference}

theorem exists_pieces (h : parse? s = some r) :
    ∃ p : Pieces, p.Separated ∧ p.text = s ∧ p.decoded = r := by
  have hscheme : scheme? s.toList ≠ none := fun hnone => by simp [parse?, hnone] at h
  obtain ⟨p, hp, rfl⟩ := exists_separated hscheme
  exact ⟨p, hp, rfl, Option.some.inj ((parse?_text hp).symm.trans h)⟩

theorem not_schemeEnd_infix_of_parse? (h : parse? s = some r) (hscheme : r.explicitScheme = false) :
    ¬ schemeEnd <:+: s.toList := by
  obtain ⟨p, hp, rfl, rfl⟩ := exists_pieces h
  exact hp.scheme (Option.isNone_iff_eq_none.1 (by simpa [Pieces.decoded] using hscheme))

/-- **A reference that is written is read as it was, unless it mimics a scheme.** It is refused if
it mimics one that is not known; otherwise it is read as another reference. -/
theorem parse?_text_eq_iff (h : parse? s = some r) :
    (parse? r.text = some r ↔ ¬ r.MimicsScheme) ∧
      (parse? r.text = none ↔ r.MimicsScheme ∧ ∀ scheme : Scheme, r.nodePath ≠ scheme.word) := by
  obtain ⟨p, -, -, rfl⟩ := exists_pieces h
  -- `q` are the pieces as they are read, and the reference is written as `q` escaped
  obtain ⟨q, hq⟩ : ∃ q, p.map Percent.decode = q := ⟨_, rfl⟩
  have hcanonical : p.canonical = q.escaped := hq ▸ Pieces.canonical_eq_escaped
  have hmimics : p.decoded.MimicsScheme ↔
      q.scheme = none ∧ q.node.isSome ∧ doubleSlash <+: q.file.toList := by
    simp [MimicsScheme, Pieces.decoded, ← hq, Pieces.map]
  rw [p.text_decoded, hcanonical]
  have hread : ¬ p.decoded.MimicsScheme → parse? q.escaped.text = some p.decoded := fun hnot => by
    rw [parse?_text (Pieces.separated_escaped_iff.2 (hmimics.not.1 hnot)), ← hcanonical,
      Pieces.decoded_canonical]
  have hend (hmimic : p.decoded.MimicsScheme) : schemeEnd <:+: q.escaped.text.toList :=
    (Pieces.schemeEnd_infix_iff (hmimics.1 hmimic).1).2 (hmimics.1 hmimic).2
  have hmarker (hmimic : p.decoded.MimicsScheme) (scheme : Scheme) :
      scheme.marker.toList <+: q.escaped.text.toList ↔ p.decoded.nodePath = scheme.word := by
    obtain ⟨hscheme, hnode, hfile⟩ := hmimics.1 hmimic
    obtain ⟨node, hnode⟩ := Option.isSome_iff_exists.1 hnode
    have hpath : p.decoded.nodePath = node := by
      obtain ⟨raw, hraw, rfl⟩ : ∃ raw, p.node = some raw ∧ Percent.decode raw = node := by
        simpa [← hq, Pieces.map] using hnode
      simp [Pieces.decoded, hraw]
    rw [Pieces.marker_prefix_iff hscheme hnode hfile, hpath]
  have hrefused : parse? q.escaped.text = none ↔
      (∀ scheme : Scheme, ¬ scheme.marker.toList <+: q.escaped.text.toList) ∧
        schemeEnd <:+: q.escaped.text.toList :=
    Option.map_eq_none_iff.trans scheme?_eq_none_iff
  refine ⟨⟨fun hsame hmimic => ?_, hread⟩, ⟨fun hnone => ?_, ?_⟩⟩
  · exact not_schemeEnd_infix_of_parse? hsame hmimic.1 (hend hmimic)
  · have hmimic : p.decoded.MimicsScheme := by
      by_contra hnot
      cases (hread hnot).symm.trans hnone
    exact ⟨hmimic, fun scheme => (hmarker hmimic scheme).not.1 ((hrefused.1 hnone).1 scheme)⟩
  · rintro ⟨hmimic, hwords⟩
    exact hrefused.2 ⟨fun scheme => (hmarker hmimic scheme).not.2 (hwords scheme), hend hmimic⟩

theorem parse?_text_eq_iff_escapes : ∃ r,
    parse? "thigh:/data/caf%c3%a9%2f%2f.dsf#a%2Fb?x%40y" = some r ∧ ¬ r.MimicsScheme ∧
      parse? r.text = some r := by
  obtain ⟨r, hr⟩ : ∃ r, parse? "thigh:/data/caf%c3%a9%2f%2f.dsf#a%2Fb?x%40y" = some r := ⟨_, rfl⟩
  have hnot : ¬ r.MimicsScheme := by
    obtain rfl := Option.some.inj hr
    decide
  exact ⟨r, hr, hnot, (parse?_text_eq_iff hr).1.2 hnot⟩

/-- **A reference that is read may be refused once it is written.** Its node path ends where the
slashes begin that were escaped. -/
theorem exists_text_refused : ∃ s r, parse? s = some r ∧ parse? r.text = none :=
  ⟨"thigh:%2F%2Fdata/figure.dsf#thigh", _, rfl, rfl⟩

end Reference

end RiggedScene
