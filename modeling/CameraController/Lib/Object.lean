import CameraController.Lib.Prog

set_option autoImplicit false

namespace Effects

variable {W X R A S : Type}

-- Requests served in turn, for a caller that catches what a request throws and
-- goes on. There is no result when a request has no defined outcome.
def serve (perform : R → Prog W X A) : List R → W → Option (List (Except X A) × W)
  | [], world => some ([], world)
  | request :: requests, world =>
      match perform request world with
      | .ok value after => (serve perform requests after).map (fun served => (.ok value :: served.1, served.2))
      | .threw error after => (serve perform requests after).map (fun served => (.error error :: served.1, served.2))
      | .fault _ => none

def answer (step : R → S → Except X A × S) : List R → S → List (Except X A) × S
  | [], s => ([], s)
  | request :: requests, s =>
      let rest := answer step requests (step request s).2
      ((step request s).1 :: rest.1, rest.2)

def Outcome.Gives (reply : Except X A) (Q : W → Prop) (outcome : Outcome W X A) : Prop :=
  match reply with
  | .ok value => ∃ after, outcome = .ok value after ∧ Q after
  | .error error => ∃ after, outcome = .threw error after ∧ Q after

theorem serve_simulates (perform : R → Prog W X A) (step : R → S → Except X A × S) (related : W → S → Prop)
    (each : ∀ request world s, related world s →
      (perform request world).Gives (step request s).1 (fun after => related after (step request s).2))
    (requests : List R) (world : W) (s : S) (start : related world s) :
    ∃ after, serve perform requests world = some ((answer step requests s).1, after) ∧
      related after (answer step requests s).2 := by
  induction requests generalizing world s with
  | nil => exact ⟨world, rfl, start⟩
  | cons request requests ih =>
      have first := each request world s start
      cases reply : (step request s).1 with
      | ok value =>
          rw [reply] at first
          obtain ⟨middle, performed, next⟩ := first
          obtain ⟨after, served, last⟩ := ih middle (step request s).2 next
          exact ⟨after, by simp [serve, performed, served, answer, reply], last⟩
      | error error =>
          rw [reply] at first
          obtain ⟨middle, performed, next⟩ := first
          obtain ⟨after, served, last⟩ := ih middle (step request s).2 next
          exact ⟨after, by simp [serve, performed, served, answer, reply], last⟩

end Effects
