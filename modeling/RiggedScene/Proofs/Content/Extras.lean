import RiggedScene.Content.Material
import RiggedScene.Proofs.Keyed

/-!
# Extra blocks under an instance

The blocks of an instance are merged into those of its template: blocks of one kind into each other,
and in them channels of one id. Both are the same fold over a keyed list.

* `Extra.find?_merge` and `Material.channelIn?_update` : what is found in a block and in the blocks
  of a material, said with those of both sides;
* `Material.nodup_kinds_update` : each kind has one block;
* `Material.update_extras_iff` : no channel is lost, and where both sides have one it has its values
  and its image file from the instance if that supplies them. The reference to its image stays.
-/

namespace RiggedScene

namespace Channel

theorem id_merge (c other : Channel) : (c.merge other).id = c.id := rfl

theorem image_merge_iff {c other : Channel} : (c.merge other).image = other.image.or c.image ↔
    other.image = none ∨ other.image = c.image := by
  change c.image = other.image.or c.image ↔ _
  cases other.image <;> simp [eq_comm]

end Channel

namespace Extra

variable {e other : Extra} {kind id : String}

theorem kind_merge (e other : Extra) : (e.merge other).kind = e.kind := rfl

theorem channels_merge (e other : Extra) : (e.merge other).channels =
    other.channels.foldl (Keyed.mergeIn Channel.id Channel.merge) e.channels := by
  refine congrArg (fun step => other.channels.foldl step e.channels) ?_
  funext mine c
  rw [Keyed.mergeIn]
  cases Keyed.find? Channel.id c.id mine <;> rfl

/-- A channel that only one of two blocks has, or both channels merged. -/
theorem find?_merge (hids : (other.channels.map Channel.id).Nodup) :
    (e.merge other).find? id = Option.merge Channel.merge (e.find? id) (other.find? id) := by
  rw [find?, channels_merge]
  exact Keyed.find?_foldl_mergeIn Channel.id_merge hids

/-- The channel with an id in the block of a kind. -/
def channelIn? (blocks : List Extra) (kind id : String) : Option Channel :=
  (Keyed.find? Extra.kind kind blocks).bind fun e => e.find? id

end Extra

namespace Material

open Extra

variable {m : Material} {own : MaterialRecord} {kind id : String}

theorem extras_withExtra (m : Material) (e : Extra) :
    (m.withExtra e).extras = Keyed.mergeIn Extra.kind Extra.merge m.extras e := by
  unfold withExtra Keyed.mergeIn
  cases Keyed.find? Extra.kind e.kind m.extras <;> rfl

theorem extras_withExtras (m : Material) (es : List Extra) :
    (m.withExtras es).extras = es.foldl (Keyed.mergeIn Extra.kind Extra.merge) m.extras := by
  rw [withExtras, List.foldl_hom Material.extras]
  exact fun m e => (extras_withExtra m e).symm

theorem extras_update (m : Material) (own : MaterialRecord) : (m.update own).extras =
    own.extras.foldl (Keyed.mergeIn Extra.kind Extra.merge) m.extras :=
  extras_withExtras (m.withChannels own.channels) own.extras

theorem nodup_kinds_update (hm : (m.extras.map Extra.kind).Nodup) (own : MaterialRecord) :
    ((m.update own).extras.map Extra.kind).Nodup := by
  rw [extras_update]
  exact Keyed.nodup_foldl_mergeIn own.extras hm

theorem nodup_kinds_ofRecord (base : MaterialRecord) :
    ((ofRecord base).extras.map Extra.kind).Nodup := by
  rw [ofRecord, extras_withExtras]
  exact Keyed.nodup_foldl_mergeIn base.extras List.nodup_nil

theorem find?_update (hkinds : (own.extras.map Extra.kind).Nodup) :
    Keyed.find? Extra.kind kind (m.update own).extras =
      Option.merge Extra.merge (Keyed.find? Extra.kind kind m.extras)
        (Keyed.find? Extra.kind kind own.extras) := by
  rw [extras_update]
  exact Keyed.find?_foldl_mergeIn Extra.kind_merge hkinds

theorem mem_kinds_update (hkinds : (own.extras.map Extra.kind).Nodup) :
    kind ∈ (m.update own).extras.map Extra.kind ↔
      kind ∈ m.extras.map Extra.kind ∨ kind ∈ own.extras.map Extra.kind := by
  rw [← Keyed.isSome_find?_iff, find?_update hkinds, Option.isSome_merge, Bool.or_eq_true,
    Keyed.isSome_find?_iff, Keyed.isSome_find?_iff]

/-- A channel that only one of two sides has, or both channels merged. -/
theorem channelIn?_update (hkinds : (own.extras.map Extra.kind).Nodup)
    (hids : ∀ e ∈ own.extras, (e.channels.map Channel.id).Nodup) :
    channelIn? (m.update own).extras kind id =
      Option.merge Channel.merge (channelIn? m.extras kind id) (channelIn? own.extras kind id) := by
  rw [channelIn?, channelIn?, channelIn?, find?_update hkinds]
  cases Keyed.find? Extra.kind kind m.extras with
  | none => rw [Option.merge_none_left, Option.bind_none, Option.merge_none_left]
  | some mine =>
    cases htheirs : Keyed.find? Extra.kind kind own.extras with
    | none => rw [Option.merge_none_right, Option.bind_none, Option.merge_none_right]
    | some theirs => exact find?_merge (hids theirs (Keyed.mem_of_find? htheirs))

/-- **What an instance does to the extra blocks of its template.** Each kind of either side has one
block. A channel that only one side has is as that side gives it. A channel that both have has its
values and its image file from the instance where that supplies them, but always the image of the
template: it is the right one exactly if the instance supplies none or the same. -/
theorem update_extras_iff (m : Material) (own : MaterialRecord)
    (hm : (m.extras.map Extra.kind).Nodup) (hkinds : (own.extras.map Extra.kind).Nodup)
    (hids : ∀ e ∈ own.extras, (e.channels.map Channel.id).Nodup) :
    ((m.update own).extras.map Extra.kind).Nodup ∧
      (∀ kind, kind ∈ (m.update own).extras.map Extra.kind ↔
        kind ∈ m.extras.map Extra.kind ∨ kind ∈ own.extras.map Extra.kind) ∧
      ∀ kind id,
        (channelIn? own.extras kind id = none →
          channelIn? (m.update own).extras kind id = channelIn? m.extras kind id) ∧
        (channelIn? m.extras kind id = none →
          channelIn? (m.update own).extras kind id = channelIn? own.extras kind id) ∧
        ∀ mine theirs, channelIn? m.extras kind id = some mine →
          channelIn? own.extras kind id = some theirs →
          ∃ c, channelIn? (m.update own).extras kind id = some c ∧
            c.value = theirs.value.or mine.value ∧
            c.currentValue = theirs.currentValue.or mine.currentValue ∧
            c.imageFile = theirs.imageFile.or mine.imageFile ∧
            c.image = mine.image ∧
            (c.image = theirs.image.or mine.image ↔
              theirs.image = none ∨ theirs.image = mine.image) := by
  refine ⟨nodup_kinds_update hm own, fun kind => mem_kinds_update hkinds, fun kind id => ?_⟩
  rw [channelIn?_update hkinds hids]
  refine ⟨fun htheirs => ?_, fun hmine => ?_, fun mine theirs hmine htheirs => ?_⟩
  · rw [htheirs, Option.merge_none_right]
  · rw [hmine, Option.merge_none_left]
  · rw [hmine, htheirs]
    exact ⟨mine.merge theirs, rfl, rfl, rfl, rfl, rfl, Channel.image_merge_iff⟩

/-- A channel with a texture. -/
def pores : Channel where
  id := "Detail"
  kind := "image"
  label := ""
  group := ""
  value := some (.num ⟨false, 1, 0, true⟩)
  currentValue := none
  visible := true
  image := some "#pores"
  imageFile := none

/-- The same channel with another texture, and with a setting in place of the authored value. -/
def freckles : Channel :=
  { pores with
    value := none, currentValue := some (.num ⟨false, 5, -1, false⟩), image := some "#freckles" }

/-- A material with one channel in an extra block. -/
def skin (c : Channel) : MaterialRecord where
  id := "Skin"
  url := none
  kind := none
  uvSet := none
  groups := []
  geometry := none
  extras := [⟨"studio_material_channels", [c]⟩]
  channels := []

theorem nodup_skin (c : Channel) : ((skin c).extras.map Extra.kind).Nodup ∧
    ∀ e ∈ (skin c).extras, (e.channels.map Channel.id).Nodup :=
  ⟨List.nodup_singleton _, List.forall_mem_singleton.2 (List.nodup_singleton _)⟩

/-- The instance sets a value, and the texture stays that of the template. -/
theorem update_extras_iff_freckles :
    ((ofRecord (skin pores)).extras.map Extra.kind).Nodup ∧
      ((skin freckles).extras.map Extra.kind).Nodup ∧
      (∀ e ∈ (skin freckles).extras, (e.channels.map Channel.id).Nodup) ∧
      ∃ c, channelIn? ((ofRecord (skin pores)).update (skin freckles)).extras
          "studio_material_channels" "Detail" = some c ∧
        c.value = pores.value ∧ c.currentValue = freckles.currentValue ∧ c.image = pores.image := by
  have hm := nodup_kinds_ofRecord (skin pores)
  obtain ⟨hkinds, hids⟩ := nodup_skin freckles
  obtain ⟨-, -, hchannels⟩ :=
    update_extras_iff (ofRecord (skin pores)) (skin freckles) hm hkinds hids
  obtain ⟨-, -, hboth⟩ := hchannels "studio_material_channels" "Detail"
  obtain ⟨c, hc, hvalue, hcurrent, -, himage, -⟩ := hboth pores freckles (by rfl) (by rfl)
  exact ⟨hm, hkinds, hids, c, hc, hvalue, hcurrent, himage⟩

/-- **An image that an instance supplies can be lost**: that of the template stays in its place. -/
theorem exists_image_lost : ∃ (base own : MaterialRecord) (kind id : String)
    (mine theirs c : Channel),
    (base.extras.map Extra.kind).Nodup ∧ (∀ e ∈ base.extras, (e.channels.map Channel.id).Nodup) ∧
      (own.extras.map Extra.kind).Nodup ∧ (∀ e ∈ own.extras, (e.channels.map Channel.id).Nodup) ∧
      channelIn? (ofRecord base).extras kind id = some mine ∧
      channelIn? own.extras kind id = some theirs ∧
      channelIn? ((ofRecord base).update own).extras kind id = some c ∧
      theirs.image.isSome ∧ c.image ≠ theirs.image.or mine.image := by
  obtain ⟨hkinds, hids⟩ := nodup_skin pores
  obtain ⟨hkinds', hids'⟩ := nodup_skin freckles
  exact ⟨skin pores, skin freckles, "studio_material_channels", "Detail", pores, freckles,
    pores.merge freckles, hkinds, hids, hkinds', hids', by rfl, by rfl, by rfl, rfl, by decide⟩

end Material

end RiggedScene
