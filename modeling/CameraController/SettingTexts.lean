import CameraController.Lib.Decimal
import CameraController.Lib.Rounding
import CameraController.WrapperScripts
import Mathlib.Data.Rat.Floor
import Mathlib.Tactic.NormNum

set_option autoImplicit false

namespace CameraController

namespace CameraStringConversion

open Rounding

def normal (q : ℚ) : Prop := 1 / 2 ^ 126 ≤ q ∧ q < 2 ^ 127

-- What the machine does with floats: the result of an operation is the exact one
-- rounded to 24 bits, a cast to int drops the fraction, std::stof rounds the
-- number it reads and std::fixed rounds the number it writes, both correctly.
structure Binary32 {C F : Type} (platform : Platform C F) where
  value : F → ℚ
  stof : ∀ (text : String) (q : ℚ), Decimal.value? text.toList = some q → normal q →
    ∃ f, platform.stof text = .ok f ∧ value f = round 24 q
  ofInt : ∀ n : ℕ, n < 2 ^ 31 → value (platform.ofInt n) = round 24 (n : ℚ)
  mul : ∀ a b, normal (value a * value b) → value (platform.mul a b) = round 24 (value a * value b)
  div : ∀ a b, normal (value a / value b) → value (platform.div a b) = round 24 (value a / value b)
  toInt : ∀ a, 0 ≤ value a → value a < 2 ^ 31 → platform.toInt a = ⌊value a⌋
  fixed : ∀ (places : ℕ) a, 0 ≤ value a →
    platform.fixed places a = String.ofList (Decimal.fixed places (nearestEven (value a * 10 ^ places)).toNat)

-- A machine that computes with the rational numbers that are floats.
def rounding (answer : (c : Call) → c.Ret ℚ) : Platform Unit ℚ where
  answer := fun c outside => (answer c, outside)
  arrivals := fun outside => ([], outside)
  stof := fun text =>
    match Decimal.value? text.toList with
    | some q => .ok (round 24 q)
    | none => .error .invalidArgument
  ofInt := fun n => round 24 (n : ℚ)
  mul := fun a b => round 24 (a * b)
  div := fun a b => round 24 (a / b)
  toInt := fun a => ⌊a⌋
  fixed := fun places a => String.ofList (Decimal.fixed places.toNat (nearestEven (a * 10 ^ places.toNat)).toNat)
  general := fun _ => ""

def exactly (answer : (c : Call) → c.Ret ℚ) : Binary32 (rounding answer) where
  value := fun a => a
  stof := fun text q read _ => ⟨round 24 q, by simp only [rounding, read], rfl⟩
  ofInt := fun n _ => by simp only [rounding, Int.cast_natCast]
  mul := fun _ _ _ => rfl
  div := fun _ _ _ => rfl
  toInt := fun _ _ _ => rfl
  fixed := fun _ _ _ => rfl

def offering : (c : Call) → c.Ret ℚ
  | .gpWidgetCountChoices _ => 2
  | .gpWidgetGetChoice _ i => (gpOk, if i = 0 then "Bulb" else "0.0125s")
  | .gpWidgetGetType _ => (gpOk, .gpWidgetRadio)
  | .gpCameraCapture _ => (gpOk, ⟨"/", "IMG_0001.JPG"⟩)
  | .gpWidgetGetName widget => (gpOk, widget.configName)
  | .gpWidgetGetReadonly _ => (gpOk, 0)
  | .gpWidgetGetValueString _ => (gpOk, "Bulb")
  | .gpWidgetGetValueFloat _ => (gpOk, 0)
  | .fopen _ => true
  | .fsExists _ => some true
  | .fsCreateDirectory _ => true
  | .gpCameraNew | .gpCameraInit _ | .gpCameraExit _ | .gpCameraFree _ | .gpCameraGetSingleConfig _ _ => gpOk
  | .gpCameraSetSingleConfig _ _ _ | .gpCameraFileGet _ _ _ | .gpWidgetSetValue _ _ | .gpWidgetFree _ => gpOk
  | .gpFileNewFromFd _ | .gpFileFree | .fileno | .fclose => 0

-- An exposure time as the camera names it: n units of 100 microseconds.
def shutterText (n : ℕ) : String := String.ofList (Decimal.fixed 4 n) ++ "s"

theorem without_last (text : String) : withoutLast (text ++ "s") = text := by
  have listed : (text ++ "s").toList = text.toList ++ ['s'] := String.toList_append
  rw [withoutLast, listed, List.dropLast_concat, String.ofList_toList]

theorem shutter_not_bulb (n : ℕ) : shutterText n ≠ "Bulb" := by
  intro same
  have last := congrArg (fun text => text.toList.getLast?) same
  simp only [shutterText, String.toList_append] at last
  rw [show ("s" : String).toList = ['s'] from rfl, List.getLast?_concat] at last
  exact absurd last (by decide)

section Floats

variable {C F : Type} {platform : Platform C F} (arithmetic : Binary32 platform)

abbrev unit : ℚ := 1 / 2 ^ 24

include arithmetic

omit arithmetic in
theorem normal_within (q : ℚ) (low : 1 / 10 ^ 4 ≤ q) (high : q ≤ 10 ^ 10) : normal q := by
  constructor
  · linarith [show (1 : ℚ) / 2 ^ 126 ≤ 1 / 10 ^ 4 by norm_num]
  · linarith [show (10 : ℚ) ^ 10 < 2 ^ 127 by norm_num]

theorem int_exact (n : ℕ) (fits : n < 2 ^ 24) : arithmetic.value (platform.ofInt n) = n := by
  rw [arithmetic.ofInt n (by omega), round_nat 24 n fits]

omit arithmetic in
theorem approx_half (k : ℕ) (x y : ℚ) (few : k ≤ 8) (positive : 0 < x) (approx : Approx unit k x y) :
    x / 2 ≤ y ∧ y ≤ 2 * x := by
  have down : (1 / 2 : ℚ) ≤ (1 - unit) ^ k := by
    calc (1 / 2 : ℚ) ≤ (1 - unit) ^ 8 := by norm_num
      _ ≤ (1 - unit) ^ k := pow_le_pow_of_le_one (by norm_num) (by norm_num) few
  have up : (1 + unit) ^ k ≤ 2 := by
    calc (1 + unit) ^ k ≤ (1 + unit) ^ 8 := pow_le_pow_right₀ (by norm_num) few
      _ ≤ 2 := by norm_num
  have below := (mul_le_mul_of_nonneg_left down positive.le).trans approx.lower
  have above := approx.upper.trans (mul_le_mul_of_nonneg_left up positive.le)
  constructor
  · linarith
  · linarith

theorem mul_approx (k m : ℕ) (x : ℚ) (a : F) (few : k ≤ 8) (positive : 1 / 2 ^ 100 ≤ x) (bounded : x * m ≤ 2 ^ 100)
    (factor : 1 ≤ m) (fits : m < 2 ^ 24) (approx : Approx unit k x (arithmetic.value a)) :
    Approx unit (k + 1) (x * m) (arithmetic.value (platform.mul a (platform.ofInt m))) := by
  have least : 0 < x := lt_of_lt_of_le (by positivity) positive
  have times : (1 : ℚ) ≤ m := by exact_mod_cast factor
  obtain ⟨low, high⟩ := approx_half k x _ few least approx
  have within : normal (arithmetic.value a * m) := by
    constructor
    · calc (1 : ℚ) / 2 ^ 126 ≤ 1 / 2 ^ 100 / 2 * 1 := by norm_num
        _ ≤ arithmetic.value a * m := mul_le_mul (by linarith) times (by norm_num) (by linarith)
    · calc arithmetic.value a * m ≤ 2 * x * m := mul_le_mul_of_nonneg_right high (by linarith)
        _ ≤ 2 * 2 ^ 100 := by linarith
        _ < 2 ^ 127 := by norm_num
  have exact := int_exact arithmetic m fits
  rw [arithmetic.mul _ _ (by rwa [exact]), exact]
  exact approx_next 24 k (m : ℚ) x _ (by linarith) (by linarith) approx

theorem div_approx (k m : ℕ) (x : ℚ) (a : F) (few : k ≤ 8) (positive : 1 / 2 ^ 100 ≤ x / m) (bounded : x ≤ 2 ^ 100)
    (factor : 1 ≤ m) (fits : m < 2 ^ 24) (approx : Approx unit k x (arithmetic.value a)) :
    Approx unit (k + 1) (x / m) (arithmetic.value (platform.div a (platform.ofInt m))) := by
  have times : (1 : ℚ) ≤ m := by exact_mod_cast factor
  have some : (0 : ℚ) < m := by linarith
  have least : 0 < x := by
    have share : 0 < x / m := lt_of_lt_of_le (by positivity) positive
    exact (div_pos_iff_of_pos_right some).mp share
  obtain ⟨low, high⟩ := approx_half k x _ few least approx
  have within : normal (arithmetic.value a / m) := by
    constructor
    · calc (1 : ℚ) / 2 ^ 126 ≤ 1 / 2 ^ 100 / 2 := by norm_num
        _ ≤ x / m / 2 := by linarith
        _ = x / 2 / m := by ring
        _ ≤ arithmetic.value a / m := div_le_div_of_nonneg_right low some.le
    · calc arithmetic.value a / m ≤ arithmetic.value a := div_le_self (by linarith) times
        _ ≤ 2 * 2 ^ 100 := by linarith
        _ < 2 ^ 127 := by norm_num
  have exact := int_exact arithmetic m fits
  rw [arithmetic.div _ _ (by rwa [exact]), exact, div_eq_mul_one_div, div_eq_mul_one_div (arithmetic.value a)]
  exact approx_next 24 k (1 / m : ℚ) x _ (by positivity) (by linarith) approx

omit arithmetic in
theorem shutter_bounds (n : ℕ) (z : ℚ) (some : 1 ≤ n) (bounded : n ≤ 1600000) (approx : Approx unit 3 (100 * n) z) :
    99 < z ∧ z < 170000000 := by
  have least : (1 : ℚ) ≤ n := by exact_mod_cast some
  have most : (n : ℚ) ≤ 1600000 := by exact_mod_cast bounded
  constructor
  · have low : (100 : ℚ) * (1 - unit) ^ 3 ≤ 100 * n * (1 - unit) ^ 3 :=
      mul_le_mul_of_nonneg_right (by linarith) (by norm_num)
    linarith [approx.lower, show (99 : ℚ) < 100 * (1 - unit) ^ 3 by norm_num]
  · have high : (100 : ℚ) * n * (1 + unit) ^ 3 ≤ 160000000 * (1 + unit) ^ 3 :=
      mul_le_mul_of_nonneg_right (by linarith) (by norm_num)
    linarith [approx.upper, show (160000000 : ℚ) * (1 + unit) ^ 3 < 170000000 by norm_num]

theorem shutter_read (n : ℕ) (some : 1 ≤ n) (bounded : n ≤ 1600000) :
    ∃ z : ℚ, Approx unit 3 (100 * n) z ∧ shutterSpeedToInt platform (shutterText n) = ⌊z⌋ := by
  have least : (1 : ℚ) ≤ n := by exact_mod_cast some
  have most : (n : ℚ) ≤ 1600000 := by exact_mod_cast bounded
  have reads : Decimal.value? (String.ofList (Decimal.fixed 4 n)).toList = .some ((n : ℚ) / 10 ^ 4) := by
    rw [String.toList_ofList, Decimal.value_fixed 4 n (by decide)]
  have seconds : (0 : ℚ) < n / 10 ^ 4 := by positivity
  have within : normal ((n : ℚ) / 10 ^ 4) := normal_within _ (by linarith) (by linarith)
  obtain ⟨ss, parsed, value⟩ := arithmetic.stof _ _ reads within
  have first : Approx unit 1 ((n : ℚ) / 10 ^ 4) (arithmetic.value ss) := by
    rw [value]
    exact approx_round 24 _ seconds
  have second := mul_approx arithmetic 1 1000 _ ss (by decide) (by linarith) (by norm_num; linarith) (by decide) (by decide) first
  have third := mul_approx arithmetic 2 1000 _ _ (by decide) (by norm_num; linarith) (by norm_num; linarith) (by decide) (by decide)
    second
  have whole : (n : ℚ) / 10 ^ 4 * (1000 : ℕ) * (1000 : ℕ) = 100 * n := by
    push_cast
    ring
  rw [whole] at third
  simp only [Nat.cast_ofNat] at third
  obtain ⟨low, high⟩ := shutter_bounds n _ some bounded third
  refine ⟨_, third, ?_⟩
  rw [shutterSpeedToInt, if_neg (shutter_not_bulb n), shutterText, without_last, parsed]
  exact arithmetic.toInt _ (by linarith) (by linarith)

omit arithmetic in
-- What the five roundings and the dropped fraction lose is less than half a unit.
theorem shutter_close (n : ℕ) (m z y : ℚ) (bounded : n ≤ 1600000) (read : Approx unit 3 (100 * n) z) (floored : m ≤ z)
    (fraction : z < m + 1) (written : Approx unit 2 (m / 1000000) y) : |y * 10 ^ 4 - (n : ℤ)| < 1 / 2 := by
  have most : (n : ℚ) ≤ 1600000 := by exact_mod_cast bounded
  have down : (1600000 : ℚ) * (1 - (1 - unit) ^ 5) + 1 / 100 < 1 / 2 := by norm_num
  have up : (1600000 : ℚ) * ((1 + unit) ^ 5 - 1) < 1 / 2 := by norm_num
  have some : 0 ≤ unit := by norm_num
  have small : unit ≤ 1 := by norm_num
  -- From here on only the bounds on the unit matter, not its value.
  generalize unit = u at *
  rw [abs_lt, Int.cast_natCast]
  constructor
  · have shrunk : (100 * n * (1 - u) ^ 3 - 1) * (1 - u) ^ 2 ≤ m * (1 - u) ^ 2 :=
      mul_le_mul_of_nonneg_right (by linarith [read.lower]) (by positivity)
    have lost : (n : ℚ) * (1 - (1 - u) ^ 5) ≤ 1600000 * (1 - (1 - u) ^ 5) :=
      mul_le_mul_of_nonneg_right most (sub_nonneg.mpr (pow_le_one₀ (by linarith) (by linarith)))
    have share : (1 - u) ^ 2 ≤ 1 := pow_le_one₀ (by linarith) (by linarith)
    linarith [written.lower]
  · have grown : m * (1 + u) ^ 2 ≤ 100 * n * (1 + u) ^ 3 * (1 + u) ^ 2 :=
      mul_le_mul_of_nonneg_right (by linarith [read.upper]) (by positivity)
    have gained : (n : ℚ) * ((1 + u) ^ 5 - 1) ≤ 1600000 * ((1 + u) ^ 5 - 1) :=
      mul_le_mul_of_nonneg_right most (sub_nonneg.mpr (one_le_pow₀ (by linarith)))
    linarith [written.upper]

theorem shutter_text_kept (n : ℕ) (some : 1 ≤ n) (bounded : n ≤ 1600000) :
    shutterSpeedToString platform (shutterSpeedToInt platform (shutterText n)) = shutterText n := by
  obtain ⟨z, approx, same⟩ := shutter_read arithmetic n some bounded
  have fraction := Int.lt_floor_add_one z
  have floored := Int.floor_le z
  obtain ⟨above, below⟩ := shutter_bounds n z some bounded approx
  obtain ⟨m, floor⟩ : ∃ m : ℕ, ⌊z⌋ = m :=
    ⟨⌊z⌋.toNat, (Int.toNat_of_nonneg (Int.floor_nonneg.mpr (by linarith))).symm⟩
  rw [floor, Int.cast_natCast] at fraction floored
  have seen : (98 : ℚ) < m := by linarith
  have short : (m : ℚ) < 170000000 := by linarith
  have fits : m < 170000000 := by exact_mod_cast short
  have nonzero : (m : ℤ) ≠ 0 := by
    have positive : 98 < m := by exact_mod_cast seen
    omega
  have first : Approx unit 1 (m : ℚ) (arithmetic.value (platform.ofInt m)) := by
    rw [arithmetic.ofInt m (by omega)]
    exact approx_round 24 _ (by linarith)
  have second := div_approx arithmetic 1 1000000 m _ (by decide) (by norm_num; linarith) (by linarith) (by decide) (by decide) first
  simp only [Nat.cast_ofNat] at second
  have low : (m : ℚ) / 1000000 * (1 - unit) ^ 2 ≤ _ := second.lower
  have close := shutter_close n m z _ bounded approx floored fraction second
  have nonneg : 0 ≤ arithmetic.value (platform.div (platform.ofInt m) (platform.ofInt 1000000)) :=
    le_trans (mul_nonneg (div_nonneg (by linarith) (by norm_num)) (by norm_num)) low
  have written := arithmetic.fixed 4 _ nonneg
  rw [nearest_even_unique _ _ close, Int.toNat_natCast] at written
  rw [same, floor, shutterSpeedToString, if_neg nonzero, toString, if_pos (by decide), shutterText, ← written]
  rfl

omit arithmetic in
theorem after_bytes_zero (text : List Char) : afterBytes 0 text = text := by
  cases text with
  | nil => rfl
  | cons c rest => exact if_pos c.utf8Size_pos

omit arithmetic in
theorem after_slash (text : String) : substr ("f/" ++ text) 2 = .ok text := by
  have listed : ("f/" ++ text).toList = 'f' :: '/' :: text.toList := String.toList_append
  have long : ¬ ("f/" ++ text).utf8ByteSize < 2 := by
    rw [String.utf8ByteSize_append]
    exact Nat.not_lt.mpr (Nat.le_add_right 2 _)
  have behind : afterBytes 2 ('f' :: '/' :: text.toList) = afterBytes 0 text.toList := rfl
  rw [substr, if_neg long, listed, behind, after_bytes_zero, String.ofList_toList]

theorem aperture_floor (text : String) (q : ℚ) (some : 1 / 100 ≤ q) (bounded : q ≤ 10000)
    (number : Decimal.value? text.toList = .some q) :
    apertureToInt platform ("f/" ++ text) = ⌊round 24 (round 24 q * 100)⌋ := by
  obtain ⟨ap, parsed, value⟩ := arithmetic.stof _ _ number (normal_within _ (by linarith) (by linarith))
  have first : Approx unit 1 q (round 24 q) := approx_round 24 _ (by linarith)
  have hundred : arithmetic.value (platform.ofInt 100) = 100 := by
    simpa only [Nat.cast_ofNat] using int_exact arithmetic 100 (by decide)
  obtain ⟨low, high⟩ := approx_half 1 q _ (by decide) (by linarith) first
  have product : arithmetic.value (platform.mul ap (platform.ofInt 100)) = round 24 (round 24 q * 100) := by
    have within : normal (round 24 q * 100) := normal_within _ (by linarith) (by linarith)
    have exact := arithmetic.mul ap (platform.ofInt 100)
    rw [hundred, value] at exact
    exact exact within
  have second := mul_approx arithmetic 1 100 q ap (by decide) (by linarith) (by norm_num; linarith) (by decide) (by decide)
    (value ▸ first)
  simp only [Nat.cast_ofNat] at second
  obtain ⟨least, most⟩ := approx_half 2 _ _ (by decide) (by linarith) second
  rw [← product, apertureToInt, after_slash, ← arithmetic.toInt _ (by linarith) (by linarith)]
  change orMinusOne (platform.stof text >>= fun value => pure (platform.toInt (platform.mul value (platform.ofInt 100)))) = _
  rw [parsed]
  rfl

theorem aperture_close (text : String) (a : ℕ) (some : 1 ≤ a) (bounded : a ≤ 1000000)
    (number : Decimal.value? text.toList = .some ((a : ℚ) / 100)) :
    apertureToInt platform ("f/" ++ text) = a ∨ apertureToInt platform ("f/" ++ text) = a - 1 := by
  have least : (1 : ℚ) ≤ a := by exact_mod_cast some
  have most : (a : ℚ) ≤ 1000000 := by exact_mod_cast bounded
  have read := aperture_floor arithmetic text _ (by linarith) (by linarith) number
  have first : Approx unit 1 ((a : ℚ) / 100) (round 24 ((a : ℚ) / 100)) := approx_round 24 _ (by linarith)
  have half := (approx_half 1 _ _ (by decide) (by linarith) first).1
  have second := approx_next 24 1 100 _ _ (by linarith) (by linarith) first
  have whole : (a : ℚ) / 100 * 100 = a := by ring
  rw [whole] at second
  have low : (a : ℚ) * (1 - unit) ^ 2 ≤ _ := second.lower
  have high : _ ≤ (a : ℚ) * (1 + unit) ^ 2 := second.upper
  have shrunk : (a : ℚ) - 1 ≤ a * (1 - unit) ^ 2 := by
    have lost : (a : ℚ) * (1 - (1 - unit) ^ 2) ≤ 1000000 * (1 - (1 - unit) ^ 2) :=
      mul_le_mul_of_nonneg_right most (by norm_num)
    linarith [show (1000000 : ℚ) * (1 - (1 - unit) ^ 2) ≤ 1 by norm_num]
  have grown : (a : ℚ) * (1 + unit) ^ 2 < a + 1 := by
    have gained : (a : ℚ) * ((1 + unit) ^ 2 - 1) ≤ 1000000 * ((1 + unit) ^ 2 - 1) :=
      mul_le_mul_of_nonneg_right most (by norm_num)
    linarith [show (1000000 : ℚ) * ((1 + unit) ^ 2 - 1) < 1 by norm_num]
  have below : ((a - 1 : ℤ) : ℚ) ≤ round 24 (round 24 ((a : ℚ) / 100) * 100) := by
    push_cast
    linarith
  have above : round 24 (round 24 ((a : ℚ) / 100) * 100) < ((a + 1 : ℤ) : ℚ) := by
    push_cast
    linarith
  have small := Int.le_floor.mpr below
  have large := Int.floor_lt.mpr above
  rw [read]
  omega

theorem aperture_whole (text : String) (k : ℕ) (some : 1 ≤ k) (bounded : k ≤ 10000)
    (number : Decimal.value? text.toList = .some (k : ℚ)) : apertureToInt platform ("f/" ++ text) = (k * 100 : ℕ) := by
  have least : (1 : ℚ) ≤ k := by exact_mod_cast some
  have most : (k : ℚ) ≤ 10000 := by exact_mod_cast bounded
  have product : ((k * 100 : ℕ) : ℚ) = (k : ℚ) * 100 := by push_cast; rfl
  rw [aperture_floor arithmetic text k (by linarith) (by linarith) number, round_nat 24 k (by omega), ← product,
    round_nat 24 (k * 100) (by omega), Int.floor_natCast]

-- An aperture is read as its hundredths, as every whole one is, or, where the roundings
-- fall short, as one less.
theorem aperture_read :
    (∀ (text : String) (a : ℕ), 1 ≤ a → a ≤ 1000000 → Decimal.value? text.toList = some ((a : ℚ) / 100) →
      apertureToInt platform ("f/" ++ text) = a ∨ apertureToInt platform ("f/" ++ text) = a - 1) ∧
    (∀ (text : String) (k : ℕ), 1 ≤ k → k ≤ 10000 → Decimal.value? text.toList = some (k : ℚ) →
      apertureToInt platform ("f/" ++ text) = (k * 100 : ℕ)) ∧
    apertureToInt platform "f/4.2" = 419 := by
  refine ⟨aperture_close arithmetic, aperture_whole arithmetic, ?_⟩
  have number : Decimal.value? "4.2".toList = some (42 / 10) := by decide +kernel
  have short : ⌊round 24 (round 24 (42 / 10 : ℚ) * 100)⌋ = 419 := by decide +kernel
  rw [← short]
  exact aperture_floor arithmetic "4.2" (42 / 10) (by norm_num) (by norm_num) number

end Floats

theorem aperture_read_short : apertureToInt (rounding offering) "f/8" = 800 ∧ apertureToInt (rounding offering) "f/4.2" = 419 :=
  ⟨(aperture_read (exactly offering)).2.1 "8" 8 (by decide) (by decide) (by decide +kernel), (aperture_read (exactly offering)).2.2⟩

end CameraStringConversion

open Effects CameraWidget CameraStringConversion CameraWrapper

section Choices

variable {C F A : Type} (platform : Platform C F)

def choice? : Answer F → Option (Int × String)
  | ⟨.gpWidgetGetChoice _ _, answer⟩ => some answer
  | _ => none

def gathered (choices : List String) (answers : List (Int × String)) : List String :=
  if answers.all (fun answer => answer.1 == gpOk) then choices ++ answers.map Prod.snd else []

-- The texts that the camera offers, none when one of them could not be read.
def offered (calls : List (Answer F)) : List String := gathered [] (calls.filterMap choice?)

theorem gathered_cons (choices : List String) (text : String) (answers : List (Int × String)) :
    gathered choices ((gpOk, text) :: answers) = gathered (choices ++ [text]) answers := by
  simp only [gathered, List.all_cons, beq_self_eq_true, Bool.true_and, List.map_cons, List.append_assoc, List.cons_append,
    List.nil_append]

theorem read_choices_gathered (widget : Widget) (n i : Nat) (choices : List String) (camera : Camera C F) :
    Tells (fun calls ending => ending = .ok (gathered choices (calls.filterMap choice?)))
      (readChoices platform widget n i choices) camera := by
  induction n generalizing i choices camera with
  | zero => exact tells_pure _ camera choices (by simp [gathered])
  | succ n ih =>
      apply tells_call
      intro result after same
      obtain ⟨code, text⟩ := result
      dsimp only
      by_cases good : code = gpOk
      · subst good
        rw [if_pos rfl]
        apply tells_mono _ _ _ _ (ih (i + 1) (choices ++ [text]) after)
        intro calls ending told
        rw [told, ← gathered_cons]
        rfl
      · rw [if_neg good]
        exact tells_pure _ after [] (by simp [gathered, choice?, good])

theorem convert_all_map (convert : String → A) (choices : List String) (out : List A) (camera : Camera C F) :
    convertAll (fun choice => .ok (convert choice)) choices out camera = .ok (out ++ choices.map convert) camera := by
  induction choices generalizing out with
  | nil => rw [List.map_nil, List.append_nil]; rfl
  | cons c choices ih =>
      have next := ih (out ++ [convert c])
      rw [List.append_assoc] at next
      exact next

def Lists (convert : String → A) (calls : List (Answer F)) (ending : Except Exn (List A)) : Prop :=
  ∀ values, ending = .ok values → values = (offered calls).map convert

theorem list_widget_offered (configName : String) (convert : String → A) (camera : Camera C F) :
    Tells (Lists convert) (listWidget platform configName (fun choice => .ok (convert choice))) camera := by
  apply tells_with_widget
  · exact fun _ _ _ ended => nomatch ended
  · exact fun _ _ _ _ _ _ ended => nomatch ended
  · exact fun _ _ _ _ _ ended => nomatch ended
  · intro id type opened fit same
    rw [getAvailableValues, bind_assoc]
    apply tells_call
    intro count counted kept
    apply tells_bind _ _ _ _ _ (read_choices_gathered platform ⟨id, configName⟩ _ 0 [] counted)
    · exact fun _ _ ended => nomatch ended
    · intro calls choices last read later
      have whole := Except.ok.inj read
      refine ⟨last, [], .ok _, ?_, (List.append_nil _).symm, rfl, convert_all_map convert choices [] last⟩
      intro freed values ended
      have listed := Except.ok.inj ended
      have others (freeing : Answer F) (none : choice? freeing = none) :
          (calls ++ [freeing]).filterMap choice? = calls.filterMap choice? := by
        rw [List.filterMap_append, List.filterMap_cons_none none, List.filterMap_nil, List.append_nil]
      rw [List.append_nil, ← listed, whole, List.nil_append, ← others ⟨.gpWidgetFree ⟨id, configName⟩, freed⟩ rfl]
      rfl

end Choices

namespace CameraStringConversion

open Rounding

-- The exposure times in the units that the texts have, up to 160 seconds.
inductive TimeText : String → Prop where
  | bulb : TimeText "Bulb"
  | seconds (n : ℕ) (some : 1 ≤ n) (bounded : n ≤ 1600000) : TimeText (shutterText n)

section Listed

variable {C F : Type} {platform : Platform C F} (arithmetic : Binary32 platform)

include arithmetic

theorem time_text_kept (text : String) (named : TimeText text) :
    shutterSpeedToString platform (shutterSpeedToInt platform text) = text := by
  cases named with
  | bulb => rfl
  | seconds n some bounded => exact shutter_text_kept arithmetic n some bounded

-- The times that are listed are set with the texts that the camera offered.
theorem listed_times_settable (camera after : Camera C F) (times : List Int)
    (listed : listExposureTimes platform camera = .ok times after) :
    ∃ calls, after.gp.log = camera.gp.log ++ calls ∧ ((∀ text ∈ offered calls, TimeText text) →
      times.map (setExposureTime platform) = (offered calls).map (writeWidget platform configExposureTime)) := by
  obtain ⟨last, calls, ending, lists, logged, _, run⟩ :=
    list_widget_offered platform configExposureTime (shutterSpeedToInt platform) camera
  have ended := listed.symm.trans run
  cases ending with
  | error error => cases ended
  | ok values =>
      cases ended
      refine ⟨calls, logged, ?_⟩
      intro named
      rw [lists times rfl, List.map_map]
      apply List.map_congr_left
      intro text member
      rw [Function.comp_apply, setExposureTime, time_text_kept arithmetic text (named text member)]

end Listed

theorem offered_times_settable : ∃ times after,
    listExposureTimes (rounding offering) ⟨{}, Gphoto.initial ()⟩ = .ok times after ∧
      times.map (setExposureTime (rounding offering)) =
        [writeWidget (rounding offering) configExposureTime "Bulb",
          writeWidget (rounding offering) configExposureTime "0.0125s"] := by
  obtain ⟨calls, logged, settable⟩ := listed_times_settable (exactly offering) ⟨{}, Gphoto.initial ()⟩ _ _ rfl
  refine ⟨_, _, rfl, ?_⟩
  have whole : offered calls = ["Bulb", shutterText 125] := by
    rw [Gphoto.initial, List.nil_append] at logged
    rw [← logged]
    decide
  rw [whole] at settable
  apply settable
  intro text member
  rcases List.mem_pair.mp member with rfl | rfl
  · exact .bulb
  · exact .seconds 125 (by decide) (by decide)

end CameraStringConversion

end CameraController
