import CameraController.ControllerDownload

set_option autoImplicit false

namespace CameraController

open Effects Transition

namespace Controller

structure Disk (Content : Type) where
  files : String → Option Content
  opened : Option String

section Photos

variable {C F Content : Type} (platform : Platform C F) (photo : CameraFilePath → Content) (blank : Content)

-- fopen(path, "w") truncates the file, and a gp_camera_file_get that succeeds
-- writes what the camera holds under its path.
def Disk.answer (disk : Disk Content) : Answer F → Disk Content
  | ⟨.fopen path, true⟩ => { files := Function.update disk.files path (some blank), opened := some path }
  | ⟨.gpCameraFileGet _ folder name, result⟩ =>
      match disk.opened with
      | some path =>
          if result = gpOk then { disk with files := Function.update disk.files path (some (photo { name, folder })) } else disk
      | none => disk
  | _ => disk

def disk (files : String → Option Content) (log : List (Answer F)) : Disk Content :=
  log.foldl (Disk.answer photo blank) ⟨files, none⟩

def photoReport (post : EventPtr × CcTopic) : Option (CameraPath × String) :=
  match post.1.sig, post.1.payload with
  | .evCameraDownloadSuccess, .cameraDownloadSuccessEvent cameraPath path => some (cameraPath, path)
  | _, _ => none

def photos (world : World C F) : List (CameraPath × String) := world.published.filterMap photoReport

def touches : Answer F → Prop
  | ⟨.fopen _, _⟩ => True
  | ⟨.gpCameraFileGet _ _ _, _⟩ => True
  | _ => False

-- What the rest of the program does between two downloads.
structure Elsewhere (before after : World C F) : Prop where
  log : ∃ added, after.camera.gp.log = before.camera.gp.log ++ added ∧ ∀ entry ∈ added, ¬ touches entry
  photos : photos after = photos before
  downloadDir : after.downloadDir = before.downloadDir

-- One EV_CAMERA_DOWNLOAD after another. An overflow may leave anything behind.
inductive DownloadStep (before : World C F) (cameraPath : CameraPath) (after : World C F) : Prop where
  | download (between : World C F) (elsewhere : Elsewhere before between)
      (run : Controller.download platform { between with toDownload := cameraPath } = .ok () after) :
      DownloadStep before cameraPath after
  | overflows (between : World C F) (elsewhere : Elsewhere before between)
      (run : Controller.download platform { between with toDownload := cameraPath } = .fault .overflow) :
      DownloadStep before cameraPath after

def opens (path : String) : Answer F → Prop
  | ⟨.fopen dest, opened⟩ => dest = path ∧ opened = true
  | _ => False

-- The path fits into a CameraFilePath. A file that has been reported is opened
-- again for the same photo only, and only when the transfer then succeeds.
structure Spares (before : World C F) (cameraPath : CameraPath) (after : World C F) : Prop where
  room : CameraWrapper.fits platform cameraPath = true
  spares : ∀ earlier path, (earlier, path) ∈ photos before →
    cString path = cString (joinPath before.downloadDir cameraPath.name) →
    (∃ entry ∈ answersSince before.camera after.camera, opens (cString (joinPath before.downloadDir cameraPath.name)) entry) →
    CameraWrapper.filePath earlier = CameraWrapper.filePath cameraPath ∧
      ∃ entry ∈ answersSince before.camera after.camera, transfers entry

def Kept (files : String → Option Content) (world : World C F) : Prop :=
  ∀ cameraPath path, (cameraPath, path) ∈ photos world →
    (disk photo blank files world.camera.gp.log).files (cString path) = some (photo (CameraWrapper.filePath cameraPath))

theorem disk_untouched (added : List (Answer F)) (quiet : ∀ entry ∈ added, ¬ touches entry) (start : Disk Content) :
    added.foldl (Disk.answer photo blank) start = start := by
  induction added generalizing start with
  | nil => rfl
  | cons entry rest ih =>
      have same : Disk.answer photo blank start entry = start := by
        obtain ⟨call, result⟩ := entry
        have untouched := quiet _ List.mem_cons_self
        cases call <;> first | rfl | exact absurd trivial untouched
      rw [List.foldl_cons, same]
      exact ih (fun other member => quiet other (List.mem_cons_of_mem entry member)) start

theorem fetch_disk (path : CameraFilePath) (dest : String) (handle : Option Nat) (answers : List (Answer F)) (failure : Option Exn)
    (fetch : Fetch path dest handle answers failure) (start : Disk Content) :
    ((∃ entry ∈ answers, opens (cString dest) entry) ∨ answers.foldl (Disk.answer photo blank) start = start) ∧
      (∀ other, other ≠ cString dest → (answers.foldl (Disk.answer photo blank) start).files other = start.files other) ∧
      (failure = none → (answers.foldl (Disk.answer photo blank) start).files (cString dest) = some (photo path)) := by
  cases fetch with
  | unopened => simp [Disk.answer]
  | unnumbered fd closed invalid => simp +contextual [Disk.answer, opens, Function.update_of_ne]
  | unmade fd result closed refused => simp +contextual [Disk.answer, opens, Function.update_of_ne]
  | broken fd result closed freed failed => simp +contextual [Disk.answer, opens, Function.update_of_ne, failed]
  | complete fd closed freed => simp +contextual [Disk.answer, opens, Function.update_of_ne]

theorem transfers_touches (entry : Answer F) (moved : transfers entry) : touches entry := by
  obtain ⟨call, result⟩ := entry
  cases call <;> trivial

theorem prepared_untouched (dir : String) (answers : List (Answer F)) (refused : Bool) (prepares : Prepared dir answers refused) :
    ∀ entry ∈ answers, ¬ touches entry := by
  cases prepares <;> simp [touches]

theorem report_photos (first second : Nat) (refused : Bool) (path : CameraPath) (dest : String) (failure : Option Exn) :
    (refusal first refused ++ [notice second (report path dest failure)]).filterMap photoReport =
      if failure = none then [(path, dest)] else [] := by
  have silent : (refusal first refused).filterMap photoReport = [] := by cases refused <;> rfl
  rw [List.filterMap_append, silent, List.nil_append]
  cases failure with
  | none => rfl
  | some error => cases error <;> rfl

theorem download_keeps (files : String → Option Content) (before after : World C F) (cameraPath : CameraPath)
    (step : DownloadStep platform before cameraPath after) (spares : Spares platform before cameraPath after)
    (kept : Kept photo blank files before) : Kept photo blank files after := by
  obtain ⟨room, spares⟩ := spares
  cases step with
  | overflows between elsewhere run => exact absurd run (download_unbroken platform { between with toDownload := cameraPath } room _)
  | download between elsewhere run =>
  obtain ⟨handle, prepared, refused, fetched, failure, first, second, prepares, fetch, logged, published⟩ :=
    download_tells platform _ after run
  obtain ⟨added, grown, quiet⟩ := elsewhere.log
  have place : photoPath { between with toDownload := cameraPath } = joinPath before.downloadDir cameraPath.name := by
    rw [photoPath, elsewhere.downloadDir]
  rw [place] at fetch published
  generalize joinPath before.downloadDir cameraPath.name = dest at fetch published spares
  have log : after.camera.gp.log = before.camera.gp.log ++ (added ++ (prepared ++ fetched)) := by
    rw [logged, grown, List.append_assoc]
  have listed : photos after = photos before ++ if failure = none then [(cameraPath, dest)] else [] := by
    have whole : after.published = between.published ++ _ := published
    rw [photos, whole, List.filterMap_append, report_photos, ← elsewhere.photos]
    rfl
  have answers : answersSince before.camera after.camera = added ++ (prepared ++ fetched) :=
    since_logged before.camera after.camera (added ++ (prepared ++ fetched)) log
  have written : disk photo blank files after.camera.gp.log =
      fetched.foldl (Disk.answer photo blank) (disk photo blank files before.camera.gp.log) := by
    rw [disk, log, List.foldl_append, List.foldl_append, List.foldl_append, disk_untouched photo blank added quiet,
      disk_untouched photo blank prepared (prepared_untouched _ prepared refused prepares)]
    rfl
  obtain ⟨either, others, arrives⟩ := fetch_disk photo blank (CameraWrapper.filePath cameraPath) dest handle fetched failure fetch
    (disk photo blank files before.camera.gp.log)
  intro earlier path member
  rw [written]
  rw [listed] at member
  cases List.mem_append.mp member with
  | inl old =>
      have held := kept earlier path old
      by_cases same : cString path = cString dest
      · rw [same] at held ⊢
        cases either with
        | inl opened =>
            obtain ⟨entry, here, opening⟩ := opened
            obtain ⟨alike, moved⟩ := spares earlier path old same ⟨entry, by rw [answers]; simp [here], opening⟩
            rw [alike]
            rw [answers, exists_append, exists_append] at moved
            have sent : ∃ entry ∈ fetched, transfers entry := by
              rcases moved with ⟨entry, member, moved⟩ | ⟨entry, member, moved⟩ | moved
              · exact absurd (transfers_touches entry moved) (quiet entry member)
              · exact absurd moved ((prepared_refuses _ prepared refused prepares).2.2 entry member)
              · exact moved
            exact arrives ((fetch_answers _ _ _ fetched failure fetch).2.mp sent)
        | inr untouched => rw [untouched, held]
      · rw [others _ same, held]
  | inr new =>
      split at new
      · rename_i success
        obtain ⟨rfl, rfl⟩ := Prod.mk.inj (List.mem_singleton.mp new)
        exact arrives success
      · cases new

-- In every sequence of downloads that spares the files reported so far, each of
-- them holds its photo.
theorem photos_kept (files : String → Option Content) (outside : C) (downloadDir : String) (cameraPaths : List CameraPath)
    (last : World C F)
    (run : Run (Meeting (DownloadStep platform) (Spares platform)) (createdWorld outside downloadDir) cameraPaths last) :
    Kept photo blank files last := by
  apply run_invariant _ (Kept photo blank files) _ _ _ _ _ run
  · rintro before cameraPath after kept ⟨step, spares⟩
    exact download_keeps platform photo blank files before after cameraPath step spares kept
  · intro cameraPath path member
    cases member

end Photos

theorem elsewhere_refl {C F : Type} (world : World C F) : Elsewhere world world :=
  ⟨⟨[], (List.append_nil _).symm, fun _ none => absurd none List.not_mem_nil⟩, rfl, rfl⟩

def firstPhoto : CameraPath := ⟨"/store/DCIM/100CANON", "IMG_0001.JPG"⟩

def nextPhoto : CameraPath := ⟨"/store/DCIM/100CANON", "IMG_0002.JPG"⟩

def otherPhoto : CameraPath := ⟨"/store/DCIM/101CANON", "IMG_0001.JPG"⟩

def fetched (cameraPath : CameraPath) (world : World Nat Unit) : World Nat Unit :=
  match download working { world with toDownload := cameraPath } with
  | .ok _ after => after
  | _ => world

theorem fetched_step (world : World Nat Unit) (cameraPath : CameraPath)
    (ends : (download working { world with toDownload := cameraPath }).returned = some ()) :
    DownloadStep working world cameraPath (fetched cameraPath world) := by
  obtain ⟨after, run⟩ := Outcome.returned_some _ _ ends
  have same : fetched cameraPath world = after := by rw [fetched, run]
  rw [same]
  exact .download world (elsewhere_refl world) run

def afterFirst : World Nat Unit := fetched firstPhoto (createdWorld 0 "/photos")

theorem photos_kept_two : ∃ last, Run (Meeting (DownloadStep working) (Spares working)) (createdWorld 0 "/photos")
      [firstPhoto, nextPhoto] last ∧
    photos last = [(firstPhoto, "/photos/IMG_0001.JPG"), (nextPhoto, "/photos/IMG_0002.JPG")] ∧
    Kept some none (fun _ => none) last := by
  have first : Spares working (createdWorld 0 "/photos") firstPhoto afterFirst :=
    ⟨by decide +kernel, fun _ _ member => absurd member List.not_mem_nil⟩
  have next : Spares working afterFirst nextPhoto (fetched nextPhoto afterFirst) := by
    refine ⟨by decide +kernel, fun earlier path member same => ?_⟩
    have listed : photos afterFirst = [(firstPhoto, "/photos/IMG_0001.JPG")] := by decide +kernel
    rw [listed, List.mem_singleton] at member
    rw [(Prod.mk.inj member).2] at same
    exact absurd same (by decide +kernel)
  have run : Run (Meeting (DownloadStep working) (Spares working)) (createdWorld 0 "/photos") [firstPhoto, nextPhoto]
      (fetched nextPhoto afterFirst) :=
    .next _ _ _ _ _ ⟨fetched_step _ _ (by decide +kernel), first⟩
      (.next _ _ _ _ _ ⟨fetched_step _ _ (by decide +kernel), next⟩ (.done _))
  exact ⟨_, run, by decide +kernel, photos_kept working some none (fun _ => none) 0 "/photos" _ _ run⟩

theorem same_name_overwritten : ¬ ∀ (cameraPaths : List CameraPath) (last : World Nat Unit),
    Run (DownloadStep working) (createdWorld 0 "/photos") cameraPaths last → Kept some none (fun _ => none) last := by
  intro claimed
  have run : Run (DownloadStep working) (createdWorld 0 "/photos") [firstPhoto, otherPhoto] (fetched otherPhoto afterFirst) :=
    .next _ _ _ _ _ (fetched_step _ _ (by decide +kernel)) (.next _ _ _ _ _ (fetched_step _ _ (by decide +kernel)) (.done _))
  have member : (firstPhoto, "/photos/IMG_0001.JPG") ∈ photos (fetched otherPhoto afterFirst) := by decide +kernel
  have held := claimed _ _ run firstPhoto "/photos/IMG_0001.JPG" member
  exact absurd held (by decide +kernel)

end Controller

end CameraController
