import CameraController.WrapperHandles

set_option autoImplicit false

namespace CameraController

open Effects CameraWidget

section Fetching

variable {C F : Type} (platform : Platform C F)

-- The ways through downloadFile(): what was answered on each, and the
-- exception at its end.
inductive Fetch (path : CameraFilePath) (dest : String) (camera : Option Nat) : List (Answer F) → Option Exn → Prop where
  | unopened : Fetch path dest camera [⟨.fopen (cString dest), false⟩] (some (CameraWrapper.openError dest))
  | unnumbered (fd closed : Int) (invalid : fd < 0) :
      Fetch path dest camera [⟨.fopen (cString dest), true⟩, ⟨.fileno, fd⟩, ⟨.fclose, closed⟩] (some (CameraWrapper.openError dest))
  | unmade (fd result closed : Int) (refused : result ≠ gpOk) :
      Fetch path dest camera [⟨.fopen (cString dest), true⟩, ⟨.fileno, fd⟩, ⟨.gpFileNewFromFd fd, result⟩, ⟨.fclose, closed⟩]
        (some (.gPhotoError result))
  | broken (fd result closed freed : Int) (failed : result ≠ gpOk) :
      Fetch path dest camera [⟨.fopen (cString dest), true⟩, ⟨.fileno, fd⟩, ⟨.gpFileNewFromFd fd, gpOk⟩,
        ⟨.gpCameraFileGet camera path.folder path.name, result⟩, ⟨.fclose, closed⟩, ⟨.gpFileFree, freed⟩]
        (some (.gPhotoError result))
  | complete (fd closed freed : Int) :
      Fetch path dest camera [⟨.fopen (cString dest), true⟩, ⟨.fileno, fd⟩, ⟨.gpFileNewFromFd fd, gpOk⟩,
        ⟨.gpCameraFileGet camera path.folder path.name, gpOk⟩, ⟨.fclose, closed⟩, ⟨.gpFileFree, freed⟩] none

def ended {X A : Type} (after : X) (value : A) : Option Exn → Outcome X Exn A
  | none => .ok value after
  | some error => .threw error after

def verdict (result : Int) : Option Exn := if result ≠ gpOk then some (.gPhotoError result) else none

theorem recorded_twice (camera : Camera C F) (first second : Call) (result : first.Ret F) (other : second.Ret F) (outside beyond : C) :
    (recorded (recorded camera first result outside) second other beyond).gp.log =
      camera.gp.log ++ [⟨first, result⟩, ⟨second, other⟩] := by
  simp only [recorded, Gphoto.record, List.append_assoc, List.cons_append, List.nil_append]

theorem transfer_tells (path : CameraFilePath) (fd : Int) (camera : Camera C F) : ∃ after result,
    (result ≠ gpOk ∧ CameraWrapper.transfer platform path fd camera = .ok (result, false) after ∧
      after.gp.log = camera.gp.log ++ [⟨.gpFileNewFromFd fd, result⟩]) ∨
    CameraWrapper.transfer platform path fd camera = .ok (result, true) after ∧
      after.gp.log = camera.gp.log ++ [⟨.gpFileNewFromFd fd, gpOk⟩,
        ⟨.gpCameraFileGet camera.wrapper.camera path.folder path.name, result⟩] := by
  rw [CameraWrapper.transfer, Prog.bind_ok _ _ _ _ _ (call_apply platform _ camera)]
  generalize platform.answer (.gpFileNewFromFd fd) camera.gp.outside = answer
  obtain ⟨made, outside⟩ := answer
  dsimp only
  by_cases good : made = gpOk
  · subst good
    rw [if_neg (not_not.mpr rfl)]
    exact ⟨_, _, .inr ⟨rfl, recorded_twice camera _ _ _ _ _ _⟩⟩
  · rw [if_pos good]
    exact ⟨_, made, .inl ⟨good, rfl, rfl⟩⟩

-- What follows the transfer: the files are closed and the result is looked at.
def finish (result : Int) (gpFileCreated : Bool) : Prog (Camera C F) Exn Unit := do
  let _ ← call platform .fclose
  if gpFileCreated then
    let _ ← call platform .gpFileFree
  if result ≠ gpOk then Prog.throw (.gPhotoError result) else pure ()

theorem finish_tells (result : Int) (gpFileCreated : Bool) (camera : Camera C F) : ∃ after closed freed,
    finish platform result gpFileCreated camera = ended after () (verdict result) ∧
      after.gp.log = camera.gp.log ++ ⟨.fclose, closed⟩ :: (if gpFileCreated then [⟨.gpFileFree, freed⟩] else []) := by
  have last : ∀ camera : Camera C F, (if result ≠ gpOk then Prog.throw (.gPhotoError result) else pure () :
      Prog (Camera C F) Exn Unit) camera = ended camera () (verdict result) := by
    intro camera
    rw [verdict]
    split <;> rfl
  cases gpFileCreated with
  | false => exact ⟨_, _, 0, last _, rfl⟩
  | true => exact ⟨_, _, _, last _, recorded_twice camera _ _ _ _ _ _⟩

theorem download_file_fetch (path : CameraFilePath) (destFilePath : String) (camera : Camera C F) :
    ∃ after answers failure, Fetch path destFilePath camera.wrapper.camera answers failure ∧
      after.gp.log = camera.gp.log ++ answers ∧
      CameraWrapper.downloadFile platform path destFilePath camera = ended after () failure := by
  rw [CameraWrapper.downloadFile, Prog.bind_ok _ _ _ _ _ (call_apply platform _ camera)]
  generalize platform.answer (.fopen (cString destFilePath)) camera.gp.outside = answer
  obtain ⟨opened, outside⟩ := answer
  cases opened with
  | false => exact ⟨_, _, _, .unopened, rfl, rfl⟩
  | true =>
      change ∃ after answers failure, _ ∧ _ ∧ (call platform .fileno >>= fun fd : Int =>
        if fd < 0 then (do
          let _ ← call platform .fclose
          Prog.throw (CameraWrapper.openError destFilePath))
        else CameraWrapper.transfer platform path fd >>= fun transferred => finish platform transferred.1 transferred.2)
          (recorded camera (.fopen (cString destFilePath)) true outside) = ended after () failure
      rw [Prog.bind_ok _ _ _ _ _ (call_apply platform _ _)]
      generalize platform.answer .fileno (recorded camera (.fopen (cString destFilePath)) true outside).gp.outside = answer
      obtain ⟨fd, beyond⟩ := answer
      dsimp only
      have numbered := recorded_twice camera (.fopen (cString destFilePath)) .fileno true fd outside beyond
      by_cases invalid : fd < 0
      · rw [if_pos invalid]
        rw [Prog.bind_ok _ _ _ _ _ (call_apply platform _ _)]
        generalize platform.answer .fclose _ = answer
        obtain ⟨closed, last⟩ := answer
        refine ⟨_, _, _, .unnumbered fd closed invalid, ?_, rfl⟩
        rw [recorded, Gphoto.record, numbered, List.append_assoc, List.cons_append, List.cons_append, List.nil_append]
      · rw [if_neg invalid]
        obtain ⟨moved, result, either⟩ := transfer_tells platform path fd
          (recorded (recorded camera (.fopen (cString destFilePath)) true outside) .fileno fd beyond)
        cases either with
        | inl unmade =>
            obtain ⟨bad, run, log⟩ := unmade
            rw [Prog.bind_ok _ _ _ _ _ run]
            obtain ⟨after, closed, freed, ending, more⟩ := finish_tells platform result false moved
            rw [ending, verdict, if_pos bad]
            refine ⟨after, _, _, .unmade fd result closed bad, ?_, rfl⟩
            rw [more, log, numbered, List.append_assoc, List.append_assoc]
            rfl
        | inr gotten =>
            obtain ⟨run, log⟩ := gotten
            rw [Prog.bind_ok _ _ _ _ _ run]
            obtain ⟨after, closed, freed, ending, more⟩ := finish_tells platform result true moved
            have whole : after.gp.log = camera.gp.log ++
                [⟨.fopen (cString destFilePath), true⟩, ⟨.fileno, fd⟩, ⟨.gpFileNewFromFd fd, gpOk⟩,
                  ⟨.gpCameraFileGet camera.wrapper.camera path.folder path.name, result⟩, ⟨.fclose, closed⟩,
                  ⟨.gpFileFree, freed⟩] := by
              rw [more, log, numbered, List.append_assoc, List.append_assoc]
              rfl
            rw [ending, verdict]
            by_cases good : result = gpOk
            · subst good
              rw [if_neg (not_not.mpr rfl)]
              exact ⟨after, _, _, .complete fd closed freed, whole, rfl⟩
            · rw [if_pos good]
              exact ⟨after, _, _, .broken fd result closed freed good, whole, rfl⟩

theorem ended_ok {X A : Type} (after last : X) (value seen : A) (failure : Option Exn)
    (run : ended after value failure = .ok seen last) : failure = none ∧ after = last := by
  cases failure with
  | none => cases run; exact ⟨rfl, rfl⟩
  | some error => cases run

theorem ended_threw {X A : Type} (after last : X) (value : A) (error : Exn) (failure : Option Exn)
    (run : ended after value failure = .threw error last) : failure = some error ∧ after = last := by
  cases failure with
  | none => cases run
  | some thrown => cases run; exact ⟨rfl, rfl⟩

end Fetching

end CameraController
