import CameraController.ControllerProgress
import CameraController.ControllerReturns

set_option autoImplicit false

namespace CameraController

open Effects Transition

namespace Controller

section Downloads

variable {C F : Type} (platform : Platform C F)

inductive Prepared (dir : String) : List (Answer F) → Bool → Prop where
  | found : Prepared dir [⟨.fsExists dir, some true⟩] false
  | made : Prepared dir [⟨.fsExists dir, some false⟩, ⟨.fsCreateDirectory dir, true⟩] false
  | refused : Prepared dir [⟨.fsExists dir, some false⟩, ⟨.fsCreateDirectory dir, false⟩] true

def notice (id : Nat) (news : CcEvent × Payload) : EventPtr × CcTopic :=
  (⟨id, news.1, news.2⟩, .topicCameraEvent)

theorem post_tells (news : CcEvent × Payload) (world after : World C F)
    (run : postNew platform news.1 news.2 .topicCameraEvent world = .ok () after) :
    after.camera.gp.log = world.camera.gp.log ∧ ∃ id, after.published = world.published ++ [notice id news] := by
  have unasked := post_new_within platform unasked_posts news.1 news.2 .topicCameraEvent trivial
  refine ⟨Prog.within_ok _ _ world after () unasked run, world.nextId, ?_⟩
  rw [post_new_emitted] at run
  cases run
  exact emitted_published platform _ _ _ world

def refusal (id : Nat) (refused : Bool) : List (EventPtr × CcTopic) :=
  if refused then [notice id (.evCameraDownloadError, .event)] else []

theorem ensure_tells (dir : String) (world after : World C F) (run : ensureDownloadDir platform dir world = .ok () after) :
    ∃ answers refused id, Prepared dir answers refused ∧ after.camera.gp.log = world.camera.gp.log ++ answers ∧
      after.published = world.published ++ refusal id refused := by
  obtain ⟨found, asked, looked, run⟩ := Prog.bind_eq_ok _ _ _ _ _ run
  obtain ⟨outside, rfl⟩ := download_dir_asked platform dir world asked found looked
  cases found with
  | true =>
      cases run
      exact ⟨_, false, 0, .found, rfl, (List.append_nil _).symm⟩
  | false =>
      obtain ⟨created, made, makes, run⟩ := Prog.bind_eq_ok _ _ _ _ _ run
      obtain ⟨beyond, rfl⟩ := asked_call platform (.fsCreateDirectory dir) _ made created makes
      have log := recorded_twice world.camera (.fsExists dir) (.fsCreateDirectory dir) (some false) created outside beyond
      cases created with
      | true =>
          cases run
          exact ⟨_, false, 0, .made, log, (List.append_nil _).symm⟩
      | false =>
          obtain ⟨same, id, published⟩ := post_tells platform (.evCameraDownloadError, .event) _ after run
          exact ⟨_, true, id, .refused, same.trans log, published⟩

def report (path : CameraPath) (photo : String) : Option Exn → CcEvent × Payload
  | none => (.evCameraDownloadSuccess, .cameraDownloadSuccessEvent path photo)
  | some (.gPhotoError error) => (.evCameraGenericError, .cameraErrorEvent error)
  | some _ => (.evCameraDownloadError, .event)

def photoPath (world : World C F) : String := joinPath world.downloadDir world.toDownload.name

theorem fetch_failure (path : CameraFilePath) (dest : String) (handle : Option Nat) (answers : List (Answer F)) (error : Exn)
    (fetch : Fetch path dest handle answers (some error)) :
    error = CameraWrapper.openError dest ∨ ∃ code, error = .gPhotoError code := by
  cases fetch with
  | unopened => exact .inl rfl
  | unnumbered fd closed invalid => exact .inl rfl
  | unmade fd result closed refused => exact .inr ⟨result, rfl⟩
  | broken fd result closed freed failed => exact .inr ⟨result, rfl⟩

theorem download_tells (world after : World C F) (run : download platform world = .ok () after) :
    ∃ handle prepared refused fetched failure first second, Prepared world.downloadDir prepared refused ∧
      Fetch (CameraWrapper.filePath world.toDownload) (photoPath world) handle fetched failure ∧
      after.camera.gp.log = world.camera.gp.log ++ (prepared ++ fetched) ∧
      after.published = world.published ++ (refusal first refused ++ [notice second (report world.toDownload (photoPath world) failure)]) := by
  rw [download_fits platform world (download_room platform world after run)] at run
  obtain ⟨_, ready, ensured, run⟩ := Prog.bind_eq_ok _ _ _ _ _ run
  obtain ⟨prepared, refused, first, prepares, asked, announced⟩ := ensure_tells platform _ world ready ensured
  obtain ⟨camera, fetched, failure, fetch, logged, outcome⟩ :=
    download_file_fetch platform (CameraWrapper.filePath world.toDownload) (photoPath world) ready.camera
  have posts : postNew platform (report world.toDownload (photoPath world) failure).1
      (report world.toDownload (photoPath world) failure).2 .topicCameraEvent { ready with camera := camera } = .ok () after := by
    cases Prog.tryCatch_eq_ok _ _ _ _ _ run with
    | inl returned =>
        obtain ⟨_, copied, copy, posted⟩ := Prog.bind_eq_ok _ _ _ _ _ returned
        obtain ⟨last, copied, rfl⟩ := Prog.zoom_eq_ok _ _ _ ready _ () copy
        obtain ⟨rfl, rfl⟩ := ended_ok _ _ _ _ failure (outcome.symm.trans copied)
        exact posted
    | inr caught =>
        obtain ⟨error, failed, handler, threw, found, posted⟩ := caught
        obtain ⟨last, copy, rfl⟩ := block_threw platform _ _ (fun _ => _) ready failed error threw
        obtain ⟨rfl, rfl⟩ := ended_threw _ _ _ error failure (outcome.symm.trans copy)
        cases fetch_failure _ _ _ _ error fetch with
        | inl unopened =>
            subst unopened
            cases found
            exact posted
        | inr refused =>
            obtain ⟨code, rfl⟩ := refused
            cases found
            exact posted
  obtain ⟨kept, second, published⟩ := post_tells platform _ _ after posts
  refine ⟨_, prepared, refused, fetched, failure, first, second, prepares, fetch, ?_, ?_⟩
  · rw [kept, logged, asked, List.append_assoc]
  · rw [published, announced, List.append_assoc]

def announced (before after : World C F) : List EventPtr := (after.published.drop before.published.length).map Prod.fst

theorem announced_published (before after : World C F) (posts : List (EventPtr × CcTopic))
    (published : after.published = before.published ++ posts) : announced before after = posts.map Prod.fst := by
  rw [announced, published, List.drop_left]

def transfers : Answer F → Prop
  | ⟨.gpCameraFileGet _ _ _, result⟩ => result = gpOk
  | _ => False

theorem leaves_downloading (ev : EventPtr) (world after : World C F) (this : Registers ControllerState)
    (run : (machine platform).handleEvent turns (.signal ev) { state := .stateDownloading, temp := .stateDownloading } world =
      .ok this after) : this.state ≠ .stateDownloading ↔ exits .stateDownloading ev = true := by
  constructor
  · intro left
    obtain ⟨_, reaction⟩ := handle_event_reaction platform this .stateDownloading rfl ev world after run
    generalize this.state = T at reaction left
    cases reaction with
    | ignores _ _ _ kept stays => exact absurd rfl left
    | defers _ _ _ _ occupied command run => exact absurd rfl left
    | connects _ _ _ _ start named run => rcases start with start | start <;> cases start
    | fails _ _ _ _ substate broken run => exact Bool.or_eq_true_iff.mpr (.inr broken)
    | completes _ _ _ _ ended run => exact Bool.or_eq_true_iff.mpr (.inl ended)
  · exact fun ends => exits_takes_out platform .stateDownloading rfl rfl ev ends world after this run

-- One of the posted events ends stateDownloading, and it is the success exactly
-- when the file came through.
structure Finishes (before after : World C F) : Prop where
  once : ((announced before after).filter (exits .stateDownloading)).length = 1
  success : (∃ ev ∈ announced before after, ev.sig = .evCameraDownloadSuccess) ↔
    ∃ entry ∈ answersSince before.camera after.camera, transfers entry

theorem prepared_refuses (dir : String) (answers : List (Answer F)) (refused : Bool) (prepares : Prepared dir answers refused) :
    ((∃ entry ∈ answers, refusesDirectory entry) ↔ refused = true) ∧ (∀ entry ∈ answers, ¬ stalls entry) ∧
      ∀ entry ∈ answers, ¬ transfers entry := by
  cases prepares <;> simp [refusesDirectory, stalls, transfers]

theorem fetch_answers (path : CameraFilePath) (dest : String) (handle : Option Nat) (answers : List (Answer F)) (failure : Option Exn)
    (fetch : Fetch path dest handle answers failure) :
    (∀ entry ∈ answers, ¬ refusesDirectory entry) ∧ ((∃ entry ∈ answers, transfers entry) ↔ failure = none) := by
  cases fetch with
  | unopened => simp [refusesDirectory, transfers]
  | unnumbered fd closed invalid => simp [refusesDirectory, transfers]
  | unmade fd result closed refused => simp [refusesDirectory, transfers]
  | broken fd result closed freed failed => simp [refusesDirectory, transfers, failed]
  | complete fd closed freed => simp [refusesDirectory, transfers]

theorem fetch_unnoticed (file : CameraFilePath) (dest : String) (handle : Option Nat) (answers : List (Answer F))
    (failure : Option Exn) (fetch : Fetch file dest handle answers failure) (id : Nat) (path : CameraPath) (photo : String) :
    (∃ entry ∈ answers, stalls entry) ↔ exits .stateDownloading (notice id (report path photo failure)).1 = false := by
  cases fetch with
  | unopened => simp [stalls, exits, finishes, notice, report, CameraWrapper.openError]
  | unnumbered fd closed invalid => simp [stalls, exits, finishes, notice, report, CameraWrapper.openError]
  | unmade fd result closed refused => simp [stalls, exits, finishes, breaks, critical, notice, report, refused]
  | broken fd result closed freed failed => simp [stalls, exits, finishes, breaks, critical, notice, report, failed]
  | complete fd closed freed => simp [stalls, exits, finishes, notice, report]

theorem report_success (path : CameraPath) (photo : String) (failure : Option Exn) :
    (report path photo failure).1 = .evCameraDownloadSuccess ↔ failure = none := by
  cases failure with
  | none => exact ⟨fun _ => rfl, fun _ => rfl⟩
  | some error => cases error <;> exact ⟨fun contrary => (nomatch contrary), fun contrary => (nomatch contrary)⟩

theorem exists_append {A : Type} (P : A → Prop) (first second : List A) :
    (∃ entry ∈ first ++ second, P entry) ↔ (∃ entry ∈ first, P entry) ∨ ∃ entry ∈ second, P entry := by
  simp only [List.mem_append, or_and_right, exists_or]

theorem one_ends (id : Nat) (refused : Bool) (last : EventPtr) :
    (((refusal id refused).map Prod.fst ++ [last]).filter (exits .stateDownloading)).length = 1 ↔
      (refused = true ↔ exits .stateDownloading last = false) := by
  have refusing : exits .stateDownloading ⟨id, .evCameraDownloadError, .event⟩ = true := rfl
  cases ends : exits .stateDownloading last <;> cases refused <;> simp [refusal, notice, ends, refusing]

theorem returned_finishes_iff (world after : World C F) (run : download platform world = .ok () after) :
    Finishes world after ↔ ((∃ entry ∈ answersSince world.camera after.camera, refusesDirectory entry) ↔
      ∃ entry ∈ answersSince world.camera after.camera, stalls entry) := by
  obtain ⟨handle, prepared, refused, fetched, failure, first, second, prepares, fetch, logged, published⟩ :=
    download_tells platform world after run
  have answers : answersSince world.camera after.camera = prepared ++ fetched :=
    since_logged world.camera after.camera (prepared ++ fetched) logged
  have events : announced world after = (refusal first refused).map Prod.fst ++
      [(notice second (report world.toDownload (photoPath world) failure)).1] := by
    rw [announced_published world after _ published, List.map_append]
    rfl
  obtain ⟨refuses, untouched, unsent⟩ := prepared_refuses world.downloadDir prepared refused prepares
  obtain ⟨elsewhere, arrives⟩ := fetch_answers _ _ _ fetched failure fetch
  have stalled := fetch_unnoticed _ _ _ fetched failure fetch second world.toDownload (photoPath world)
  have succeeded := report_success world.toDownload (photoPath world) failure
  have refusal_quiet : ∀ ev ∈ (refusal first refused).map Prod.fst, ev.sig ≠ .evCameraDownloadSuccess := by
    cases refused <;> simp [refusal, notice]
  have success : (∃ ev ∈ announced world after, ev.sig = .evCameraDownloadSuccess) ↔ failure = none := by
    rw [events, ← succeeded]
    constructor
    · rintro ⟨ev, member, named⟩
      cases List.mem_append.mp member with
      | inl early => exact absurd named (refusal_quiet ev early)
      | inr last =>
          rw [List.mem_singleton.mp last] at named
          exact named
    · exact fun named => ⟨_, List.mem_append_right _ (List.mem_singleton_self _), named⟩
  have transferred : (∃ entry ∈ prepared ++ fetched, transfers entry) ↔ failure = none := by
    rw [← arrives, exists_append]
    apply or_iff_right
    rintro ⟨entry, member, moved⟩
    exact unsent entry member moved
  have refusals : (∃ entry ∈ prepared ++ fetched, refusesDirectory entry) ↔ refused = true := by
    rw [← refuses, exists_append]
    apply or_iff_left
    rintro ⟨entry, member, no⟩
    exact elsewhere entry member no
  have stallings : (∃ entry ∈ prepared ++ fetched, stalls entry) ↔
      exits .stateDownloading (notice second (report world.toDownload (photoPath world) failure)).1 = false := by
    rw [← stalled, exists_append]
    apply or_iff_right
    rintro ⟨entry, member, bad⟩
    exact untouched entry member bad
  have count : ((announced world after).filter (exits .stateDownloading)).length = 1 ↔ (refused = true ↔
      exits .stateDownloading (notice second (report world.toDownload (photoPath world) failure)).1 = false) := by
    rw [events]
    exact one_ends first refused _
  rw [answers, refusals, stallings, ← count]
  exact ⟨Finishes.once, fun once => ⟨once, by rw [success, answers, transferred]⟩⟩

theorem copy_photo_returns (path : CameraPath) (photo : String) (world : World C F) :
    ∃ after, copyPhoto platform path photo world = .ok () after := by
  obtain ⟨camera, fetched, failure, fetch, logged, outcome⟩ :=
    download_file_fetch platform (CameraWrapper.filePath path) photo world.camera
  have copied : onCamera (CameraWrapper.downloadFile platform (CameraWrapper.filePath path) photo) world =
      ended { world with camera := camera } () failure := by
    rw [onCamera, Prog.zoom, outcome]
    cases failure <;> rfl
  rw [copyPhoto, Prog.tryCatch]
  cases failure with
  | none =>
      rw [Prog.bind_ok _ _ _ _ _ copied]
      exact ⟨_, rfl⟩
  | some error =>
      rw [Prog.bind_threw _ _ _ _ _ copied]
      cases fetch_failure _ _ _ _ error fetch with
      | inl unopened => subst unopened; exact ⟨_, rfl⟩
      | inr refused => obtain ⟨code, rfl⟩ := refused; exact ⟨_, rfl⟩

theorem download_unbroken (world : World C F) (room : CameraWrapper.fits platform world.toDownload = true) (cause : Fault) :
    download platform world ≠ .fault cause := by
  intro run
  have verdict := download_escapes platform world room
  rw [run] at verdict
  exact verdict

-- An execution that throws posts nothing and need not post anything. One that
-- overflows may do whatever it likes.
theorem download_finishes_iff (world : World C F) :
    ((download platform world).Sat (fun _ after => Finishes world after) (fun _ _ => True) ↔
      (CameraWrapper.fits platform world.toDownload = true ∨
        (platform.answer (.fsExists world.downloadDir) world.camera.gp.outside).1 = none) ∧
      ((∃ entry ∈ answersDuring world (download platform), refusesDirectory entry) ↔
        ∃ entry ∈ answersDuring world (download platform), stalls entry)) ∧
    ∀ ev start this after, (machine platform).handleEvent turns (.signal ev)
      { state := .stateDownloading, temp := .stateDownloading } start = .ok this after →
        (this.state ≠ .stateDownloading ↔ exits .stateDownloading ev = true) := by
  refine ⟨?_, fun ev start this after => leaves_downloading platform ev start after this⟩
  cases known : (platform.answer (.fsExists world.downloadDir) world.camera.gp.outside).1 with
  | none =>
      obtain ⟨outside, threw⟩ := ensure_throws platform world.downloadDir world known
      have ends := download_copies platform world
      rw [Prog.bind_threw _ _ _ _ _ threw] at ends
      have answers : answersDuring world (download platform) = [⟨.fsExists world.downloadDir, none⟩] := by
        rw [answersDuring, ends]
        exact since_recorded world.camera _ _ outside
      rw [ends, answers]
      simp [refusesDirectory, stalls]
  | some found =>
      obtain ⟨ready, ensured⟩ := ensure_returns platform world.downloadDir world found known
      cases room : CameraWrapper.fits platform world.toDownload with
      | true =>
          obtain ⟨after, copied⟩ := copy_photo_returns platform world.toDownload
            (joinPath world.downloadDir world.toDownload.name) ready
          have run : download platform world = .ok () after := by
            rw [download_fits platform world room, Prog.bind_ok _ _ _ _ _ ensured]
            exact copied
          have answers : answersDuring world (download platform) = answersSince world.camera after.camera := by
            rw [answersDuring, run]
          rw [run, answers, Outcome.sat_ok, returned_finishes_iff platform world after run]
          simp
      | false =>
          have faults : download platform world = .fault .overflow := by
            rw [download_overflows platform world room, Prog.bind_ok _ _ _ _ _ ensured]
            rfl
          rw [faults]
          simp

end Downloads

def awaiting (path : CameraPath) : World Nat Unit := { createdWorld 0 "/photos" with toDownload := path }

theorem download_finishes_working :
    (download working (awaiting ⟨"/store", "a.jpg"⟩)).Sat (fun _ after => Finishes (awaiting ⟨"/store", "a.jpg"⟩) after)
      (fun _ _ => True) := by
  apply (download_finishes_iff working (awaiting ⟨"/store", "a.jpg"⟩)).1.mpr
  have answers : answersDuring (awaiting ⟨"/store", "a.jpg"⟩) (download working) = [⟨.fsExists "/photos", some true⟩,
      ⟨.fopen "/photos/a.jpg", true⟩, ⟨.fileno, 3⟩, ⟨.gpFileNewFromFd 3, 0⟩, ⟨.gpCameraFileGet none "/store" "a.jpg", 0⟩,
      ⟨.fclose, 0⟩, ⟨.gpFileFree, 0⟩] := by
    rfl
  exact ⟨.inl (by decide +kernel), by simp [answers, refusesDirectory, stalls, gpOk]⟩

def breaking : Platform Nat Unit := attached (fun _ => gpOk) fun c =>
  match c with
  | .gpCameraFileGet _ _ _ => some (-1)
  | _ => none

theorem broken_download_unfinished : ¬ ∀ world after, download breaking world = .ok () after → Finishes world after := by
  intro claimed
  have none : ∀ after, download breaking (awaiting ⟨"/store", "a.jpg"⟩) = .ok () after →
      ((announced (awaiting ⟨"/store", "a.jpg"⟩) after).filter (exits .stateDownloading)).length = 0 := by
    intro after run
    cases run
    decide +kernel
  obtain ⟨after, run⟩ : ∃ after, download breaking (awaiting ⟨"/store", "a.jpg"⟩) = .ok () after := ⟨_, rfl⟩
  have once := (claimed _ after run).once
  rw [none after run] at once
  cases once

end Controller

end CameraController
