import ChainProjection.Proofs.Assets
import ChainProjection.Proofs.Retention

/-!
# Licenses of videos

A license that comes with a video is stored under the next number, whatever license the video had,
and a video that is written without one keeps the number it has.  So **no two videos of a visited
store have one license** (`Visited.licensesApart`), even where two payloads carried equal ones.

The invariant has to say more than that: the numbers in use have all been given out
(`Store.OwnsLicense`), since only then is the next number one that no video has yet.
-/

namespace ChainProjection

open Store Table

variable {s s' t : Store} {o : Occurrence} {d : EventData} {admits : Occurrence → Prop}

namespace Store

/-- A license, if there is one, has been given out, and no video but one has it. -/
def OwnsLicense (s : Store) (id : VideoId) (license : Option Nat) : Prop :=
  ∀ number ∈ license, number ≤ s.licenseRows ∧
    ∀ {id' : VideoId} {row : Video}, s.videos[id']? = some row → number ∈ row.license → id' = id

/-- What writes no video and gives out more numbers at most takes no license away. -/
theorem OwnsLicense.of_videos {id : VideoId} {license : Option Nat} (h : s.OwnsLicense id license)
    (hnumbers : s.licenseRows ≤ s'.licenseRows) (heq : s'.videos = s.videos) :
    s'.OwnsLicense id license := by
  intro number hnumber
  obtain ⟨hle, hown⟩ := h number hnumber
  refine ⟨Nat.le_trans hle hnumbers, ?_⟩
  rw [heq]
  exact hown

/-- Every video has its license to itself. -/
def LicensesApart (s : Store) : Prop :=
  Forall (fun id row ↦ s.OwnsLicense id row.license) s.videos

namespace LicensesApart

/-- Licenses stay apart where every video that is left has the license it had. -/
theorem of_rows (h : s.LicensesApart) (hnumbers : s.licenseRows ≤ s'.licenseRows)
    (hrows : Forall (fun id row' ↦ ∃ row, s.videos[id]? = some row ∧ row'.license = row.license)
      s'.videos) : s'.LicensesApart := by
  intro id row' found' number hnumber
  obtain ⟨row, found, hlicense⟩ := hrows found'
  rw [hlicense] at hnumber
  obtain ⟨hle, hown⟩ := h found number hnumber
  refine ⟨Nat.le_trans hle hnumbers, fun {id' other'} hother' hshared ↦ ?_⟩
  obtain ⟨other, hother, heq⟩ := hrows hother'
  rw [heq] at hshared
  exact hown hother hshared

/-- Licenses stay apart where no video is written. -/
theorem of_videos (h : s.LicensesApart) (hnumbers : s.licenseRows ≤ s'.licenseRows)
    (heq : s'.videos = s.videos) : s'.LicensesApart := by
  refine h.of_rows hnumbers ?_
  rw [heq]
  exact fun id row found ↦ ⟨row, found, rfl⟩

/-- A video may be saved with a license that is its own. -/
theorem saveVideo (h : s.LicensesApart) {video : Video}
    (hvideo : s.OwnsLicense video.id video.license) : (s.saveVideo video).LicensesApart := by
  intro id row found number hnumber
  rcases getElem?_upsert_eq_some rfl found with ⟨_, rfl, rfl⟩ | ⟨hid, found⟩
  · obtain ⟨hle, hown⟩ := hvideo number hnumber
    refine ⟨hle, fun {id' other} hother hshared ↦ ?_⟩
    rcases getElem?_upsert_eq_some rfl hother with ⟨_, rfl, -⟩ | ⟨-, hother⟩
    · rfl
    · exact hown hother hshared
  · obtain ⟨hle, hown⟩ := h found number hnumber
    refine ⟨hle, fun {id' other} hother hshared ↦ ?_⟩
    rcases getElem?_upsert_eq_some rfl hother with ⟨_, rfl, rfl⟩ | ⟨-, hother⟩
    -- The video that is saved cannot have the license of another one.
    · exact absurd ((hvideo number hshared).2 found hnumber) hid
    · exact hown hother hshared

end LicensesApart

end Store

/-! ### Steps -/

/-- Merging changes into a video does not make it another one. -/
theorem VideoChanges.Merging.id_eq {owner : DataObjectOwner} {video video' : Video}
    {changes : Option VideoChanges} (merged : Merging o owner s video changes video' s') :
    video'.id = video.id := by
  cases merged <;> rfl

/-- A license that is stored has the next number, which no video has yet. -/
theorem LicenseStep.ownsLicense {current row : Option Nat} {license : Option Metadata.License}
    (step : LicenseStep o s current license row s') (h : s.LicensesApart) {id : VideoId}
    (hcurrent : s.OwnsLicense id current) : s'.OwnsLicense id row := by
  cases step with
  | kept => exact hcurrent
  | stored =>
    rintro _ ⟨⟩
    refine ⟨Nat.le_refl _, fun {id' other} found hshared ↦ ?_⟩
    have hle : s.licenseRows + 1 ≤ s.licenseRows := (h found _ hshared).1
    omega

/-- The license of a video that changes are merged into stays its own. -/
theorem VideoChanges.Merging.ownsLicense {owner : DataObjectOwner} {video video' : Video}
    {changes : Option VideoChanges} (merged : Merging o owner s video changes video' s')
    (h : s.LicensesApart) (hvideo : s.OwnsLicense video.id video.license) :
    s'.OwnsLicense video.id video'.license := by
  cases merged with
  | kept => exact hvideo
  | @merged changes language license t u _ spoken licensed pictured =>
    subst pictured
    have hspoken := h.of_videos spoken.retains.licenseRows spoken.registers.videos
    have hkept := hvideo.of_videos spoken.retains.licenseRows spoken.registers.videos
    have hstored := (u.retains_withAsset? o owner changes.thumbnailPhoto).trans
      (retains_withAsset? _ o owner changes.media)
    have hregistered := (u.registers_withAsset? o owner changes.thumbnailPhoto).trans
      (registers_withAsset? _ o owner changes.media)
    exact (licensed.ownsLicense hspoken hkept).of_videos hstored.licenseRows hregistered.videos

/-- A content event leaves every video its license. -/
theorem ContentEvent.Step.licensesApart (hkeyed : s.Keyed) (h : s.LicensesApart) {e : ContentEvent}
    (step : Step o s e d s') : s'.LicensesApart := by
  have hnumbers := step.retains.licenseRows
  have hsame : Forall (fun id row' ↦ ∃ row, s.videos[id]? = some row ∧ row'.license = row.license)
      s.videos := fun _ row found ↦ ⟨row, found, rfl⟩
  cases step with
  | @channelCreated actor id owner _ _ _ _ read merged =>
    exact h.of_videos hnumbers ((s.registers_withOwner o owner).trans merged.registers).videos
  | channelUpdated found asked merged => exact h.of_videos hnumbers merged.registers.videos
  | videoCreated found read merged =>
    have hmerged := h.of_videos merged.retains.licenseRows merged.registers.videos
    refine hmerged.saveVideo ?_
    rw [merged.id_eq]
    -- A new video starts without a license, so there is none it could share.
    exact merged.ownsLicense h fun _ hnumber ↦ by cases hnumber
  | @videoUpdated actor id update row video changes t found fits asked merged =>
    have hmerged := h.of_videos merged.retains.licenseRows merged.registers.videos
    have hrow : s.OwnsLicense row.id row.license := by
      rw [hkeyed.videos found]
      exact h found
    refine hmerged.saveVideo ?_
    show t.OwnsLicense video.id video.license
    rw [merged.id_eq]
    exact merged.ownsLicense h hrow
  | videoDeleted => exact h.of_rows hnumbers (Forall.erase hsame _)
  | @videoCensorship isCensored id rationale row found fits =>
    refine h.saveVideo ?_
    show s.OwnsLicense row.id row.license
    rw [hkeyed.videos found]
    exact h found
  | featuredVideosSet replaced =>
    exact h.of_rows hnumbers (forall_replaceFeatured replaced hsame fun _ _ _ hrow ↦ hrow)
  | _ => exact h.of_videos hnumbers rfl

/-- An acceptance rewrites slots and leaves every license with its video. -/
theorem ContentAcceptance.Step.licensesApart (h : s.LicensesApart) {acceptance : ContentAcceptance}
    (step : Step o s acceptance d s') : s'.LicensesApart := by
  have hnumbers := step.retains.licenseRows
  cases step with
  | accepted found =>
    refine h.of_rows hnumbers fun id row' found' ↦ ?_
    obtain ⟨row, found, rfl⟩ :=
      Option.map_eq_some_iff.1 ((Std.ExtTreeMap.getElem?_map ..).symm.trans found')
    refine ⟨row, found, ?_⟩
    rw [refreshVideo]
    split <;> rfl

/-- A step leaves every video its license. -/
theorem Handles.licensesApart (hkeyed : s.Keyed) (h : s.LicensesApart)
    (handled : Handles o s d s') : s'.LicensesApart := by
  rcases handled with ⟨-, -, step⟩ | ⟨-, -, step⟩ | ⟨-, -, step⟩
  · exact h.of_videos step.retains.licenseRows step.writesForum.videos
  · exact step.licensesApart hkeyed h
  · exact step.licensesApart h

/-- In a visited store every video has its license to itself. -/
theorem Store.Visited.licensesApart (h : Visited admits s) : s.LicensesApart := by
  induction h with
  | seeded h =>
    rw [h.eq]
    exact forall_empty
  | event visited _ handled _ ih =>
    exact (handled.licensesApart visited.keyed ih).of_videos (Nat.le_refl _) rfl
  | cursor _ _ ih => exact ih.of_videos (Nat.le_refl _) rfl

end ChainProjection
