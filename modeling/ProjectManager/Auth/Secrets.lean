import ProjectManager.Calendar.Moments
import ProjectManager.Domain.Errors
import ProjectManager.Foundation.Calls

/-! # Passwords and one-time codes

A stored password is a salted digest, and a one-time code comes from a shared secret
and the time. The digest functions themselves are parameters. Codes are compared as
texts, and the comparison refuses texts beyond ASCII.
-/

namespace ProjectManager

open Foundation

/-! ## Digits -/

/-- The first characters of the runs of characters that `str.isdigit` accepts, with the lengths of
the runs. -/
def digitRuns : List (ℕ × ℕ) :=
  [(48, 10), (178, 2), (185, 1), (1632, 10), (1776, 10), (1984, 10), (2406, 10), (2534, 10),
    (2662, 10), (2790, 10), (2918, 10), (3046, 10), (3174, 10), (3302, 10), (3430, 10), (3558, 10),
    (3664, 10), (3792, 10), (3872, 10), (4160, 10), (4240, 10), (4969, 9), (6112, 10), (6160, 10),
    (6470, 10), (6608, 11), (6784, 10), (6800, 10), (6992, 10), (7088, 10), (7232, 10), (7248, 10),
    (8304, 1), (8308, 6), (8320, 10), (9312, 9), (9332, 9), (9352, 9), (9450, 1), (9461, 9),
    (9471, 1), (10102, 9), (10112, 9), (10122, 9), (42528, 10), (43216, 10), (43264, 10),
    (43472, 10), (43504, 10), (43600, 10), (44016, 10), (65296, 10), (66720, 10), (68160, 4),
    (68912, 10), (69216, 9), (69714, 9), (69734, 10), (69872, 10), (69942, 10), (70096, 10),
    (70384, 10), (70736, 10), (70864, 10), (71248, 10), (71360, 10), (71472, 10), (71904, 10),
    (72016, 10), (72784, 10), (73040, 10), (73120, 10), (92768, 10), (92864, 10), (93008, 10),
    (120782, 50), (123200, 10), (123632, 10), (125264, 10), (127232, 11), (130032, 10)]

def isDigit (c : Char) : Bool :=
  digitRuns.any fun run => decide (run.1 ≤ c.toNat ∧ c.toNat < run.1 + run.2)

def isAscii (text : String) : Prop := ∀ c ∈ text.toList, c.toNat < 128

instance (text : String) : Decidable (isAscii text) := List.decidableBAll _ text.toList

/-! ## Passwords -/

inductive PasswordScheme
  | pbkdf2Sha256
  | pbkdf2Sha512
  deriving DecidableEq, Repr

/-- A stored password, decoded from its text. -/
structure PasswordHash where
  scheme : PasswordScheme := .pbkdf2Sha256
  iterations : ℕ := 390000
  salt : List UInt8
  digest : List UInt8
  deriving DecidableEq

/-- The digests of the standard library. -/
structure Digests where
  pbkdf2Hmac : PasswordScheme → String → List UInt8 → ℕ → List UInt8
  hmacSha1 : List UInt8 → List UInt8 → Fin 20 → UInt8

section

variable (digests : Digests)

def hashPassword (rawPassword : String) (salt : List UInt8) : PasswordHash where
  salt := salt
  digest := digests.pbkdf2Hmac .pbkdf2Sha256 rawPassword salt 390000

def verifyPassword (rawPassword : String) (stored : PasswordHash) : Bool :=
  digests.pbkdf2Hmac stored.scheme rawPassword stored.salt stored.iterations = stored.digest

end

def validatePassword (password : String) : Except DomainError Unit := do
  ensure (8 ≤ password.length)
    (validationError "Password must be at least 8 characters." "WEAK_PASSWORD")
  ensure (password.toList.any isLower = true)
    (validationError "Password must include a lowercase letter." "WEAK_PASSWORD")
  ensure (password.toList.any isUpper = true)
    (validationError "Password must include an uppercase letter." "WEAK_PASSWORD")
  ensure (password.toList.any isDigit = true)
    (validationError "Password must include a digit." "WEAK_PASSWORD")

/-! ## One-time codes -/

/-- The microseconds since the beginning of 1970. -/
def Moment.timestamp (moment : Moment) : ℤ := moment - 719163 * Moment.day

def Moment.second : ℤ := 1000000

/-- `struct.pack(">Q", counter)`. Dates end with the year 9999, so that eight bytes are enough. -/
def packCounter (counter : ℤ) : Except DomainError (List UInt8) := do
  ensure (0 ≤ counter)
    { errorClass := .structError, message := "argument out of range", code := "error" }
  return (List.range 8).map fun i => UInt8.ofNat (counter.toNat / 256 ^ (7 - i) % 256)

/-- Four bytes of the digest, at an offset that its last half byte names. -/
def truncateDigest (digest : Fin 20 → UInt8) : ℕ :=
  let offset := (digest 19).toNat % 16
  let byte (i : ℕ) : ℕ := (digest (Fin.ofNat 20 (offset + i))).toNat
  (byte 0 * 256 ^ 3 + byte 1 * 256 ^ 2 + byte 2 * 256 + byte 3) % 2 ^ 31

section

variable (digests : Digests)

def generateTotpCode (secret : List UInt8) (atTime : Moment) : Except DomainError String := do
  -- `int` cuts the fraction of the seconds off.
  let counter := atTime.timestamp.tdiv Moment.second / 30
  let payload ← packCounter counter
  return zfill 6 (toString (truncateDigest (digests.hmacSha1 secret payload) % 10 ^ 6))

/-- `hmac.compare_digest` of two texts -/
def compareDigest (first second : String) : Except DomainError Bool := do
  ensure (isAscii first ∧ isAscii second)
    { errorClass := .typeError
      message := "comparing strings with non-ASCII characters is not supported" }
  return decide (first = second)

def normalizeTotpCode (code : Option String) : String :=
  String.ofList ((strip (code.getD "")).toList.filter isDigit)

/-- Whether the code of one of the three windows around the moment is given. -/
def verifyTotpCode (secret : Option (List UInt8)) (code : Option String) (atTime : Moment) :
    Except DomainError Bool :=
  let normalizedCode := normalizeTotpCode code
  match secret with
  | none => .ok false
  | some secret =>
      if normalizedCode.length ≠ 6 then .ok false
      else [-1, 0, 1].anyM fun step => do
        let expected ← generateTotpCode digests secret (atTime + step * (30 * Moment.second))
        compareDigest expected normalizedCode

/-- The code gets as far as the comparison with the code of the first window. -/
def totpCompared (secret : Option (List UInt8)) (code : Option String) (atTime : Moment) : Bool :=
  secret.any fun secret => decide ((normalizeTotpCode code).length = 6) &&
    (generateTotpCode digests secret (atTime + -1 * (30 * Moment.second))).isOk

/-! ## Codes in ASCII -/

theorem isAscii_toString (n : ℕ) : isAscii (toString n) := by
  intro c hc
  rw [Nat.toString_eq_ofList_toDigits, String.toList_ofList] at hc
  have hdigit := Nat.isDigit_of_mem_toDigits (by decide) (by decide) hc
  obtain ⟨-, hle⟩ := Bool.and_eq_true_iff.mp hdigit
  have hbound : c.toNat ≤ 57 := of_decide_eq_true hle
  omega

theorem isAscii_zfill {text : String} (width : ℕ) (h : isAscii text) :
    isAscii (zfill width text) := by
  intro c hc
  unfold zfill at hc
  rw [String.toList_append, String.toList_ofList, List.mem_append] at hc
  rcases hc with hzero | hmem
  · rw [List.eq_of_mem_replicate hzero]
    decide
  · exact h c hmem

variable {digests : Digests} {secret : List UInt8} {first second : Moment}

theorem generateTotpCode_ascii {code : String}
    (h : generateTotpCode digests secret first = .ok code) : isAscii code := by
  obtain ⟨payload, -, h⟩ := bind_ok h
  obtain rfl := Except.ok.inj h
  exact isAscii_zfill 6 (isAscii_toString _)

/-- A window that can be computed is followed by windows that can be computed. -/
theorem generateTotpCode_later (hle : first ≤ second)
    (h : (generateTotpCode digests secret first).isOk = true) :
    ∃ code, generateTotpCode digests secret second = .ok code := by
  have hcode := eq_ok_getD h ""
  obtain ⟨payload, hpayload, -⟩ := bind_ok hcode
  obtain ⟨_, hcounter, -⟩ := bind_ok hpayload
  have hfirst := ensure_eq_ok.mp hcounter
  have hseconds : first.timestamp.tdiv Moment.second ≤ second.timestamp.tdiv Moment.second := by
    apply Int.tdiv_le_tdiv (by decide)
    unfold Moment.timestamp
    exact Int.sub_le_sub_right hle _
  have hsecond : 0 ≤ second.timestamp.tdiv Moment.second / 30 := by omega
  have hpacked : ∃ payload, packCounter (second.timestamp.tdiv Moment.second / 30) = .ok payload :=
    ⟨_, bind_eq_ok.mpr ⟨(), ensure_eq_ok.mpr hsecond, rfl⟩⟩
  obtain ⟨payload, hpacked⟩ := hpacked
  exact ⟨_, bind_eq_ok.mpr ⟨payload, hpacked, rfl⟩⟩

theorem compareDigest_ascii {given expected : String} (hexpected : isAscii expected)
    (hgiven : isAscii given) : compareDigest expected given = .ok (decide (expected = given)) :=
  bind_eq_ok.mpr ⟨(), ensure_eq_ok.mpr ⟨hexpected, hgiven⟩, rfl⟩

theorem verifyTotpCode_ascii {stored : Option (List UInt8)} {code : Option String} {now : Moment}
    (hcompared : totpCompared digests stored code now = true)
    (hascii : isAscii (normalizeTotpCode code)) :
    ∃ verdict, verifyTotpCode digests stored code now = .ok verdict := by
  cases stored with
  | none => cases hcompared
  | some secret =>
      unfold totpCompared at hcompared
      rw [Option.any_some, Bool.and_eq_true, decide_eq_true_iff] at hcompared
      obtain ⟨hlength, hfirst⟩ := hcompared
      have hwindow : ∀ step : ℤ, -1 ≤ step → ∃ verdict,
          (do
            let expected ← generateTotpCode digests secret (now + step * (30 * Moment.second))
            compareDigest expected (normalizeTotpCode code)) = Except.ok verdict := by
        intro step hstep
        have hle : now + -1 * (30 * Moment.second) ≤ now + step * (30 * Moment.second) :=
          Int.add_le_add_left (Int.mul_le_mul_of_nonneg_right hstep (by decide)) now
        obtain ⟨expected, hexpected⟩ := generateTotpCode_later hle hfirst
        exact ⟨_, bind_eq_ok.mpr ⟨expected, hexpected,
          compareDigest_ascii (generateTotpCode_ascii hexpected) hascii⟩⟩
      obtain ⟨before, hbefore⟩ := hwindow (-1) le_rfl
      obtain ⟨present, hpresent⟩ := hwindow 0 (by decide)
      obtain ⟨after, hafter⟩ := hwindow 1 (by decide)
      unfold verifyTotpCode
      simp only
      rw [if_neg (not_not_intro hlength), List.anyM_cons, hbefore]
      cases before with
      | true => exact ⟨true, rfl⟩
      | false =>
          simp only [List.anyM_cons, hpresent, hafter]
          cases present
          · cases after <;> exact ⟨_, rfl⟩
          · exact ⟨true, rfl⟩

end

end ProjectManager
