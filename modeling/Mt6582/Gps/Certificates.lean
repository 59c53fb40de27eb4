import Mt6582.Gps.Agps

/-! # What the certificate messages carry

`agps_install_certificates` and `agps_revoke_certificates` get an array of structures and the number of these.
A certificate is a length and a pointer, so that its contents are not in the array at all; of the array as many
bytes are sent as it has elements.
-/

namespace Mt6582.Gps

open Machine

/-! ## The arrays -/

/-- `DerEncodedCertificate`: what `data` points to and the address of it. -/
structure DerEncodedCertificate where
  contents : List Byte
  data : Nat
deriving DecidableEq, Repr

/-- `size_t length; u_char* data;`, in four bytes each. -/
def DerEncodedCertificate.memory (certificate : DerEncodedCertificate) : List Byte :=
  intBytes certificate.contents.length ++ intBytes certificate.data

/-- `Sha1CertificateFingerprint`. -/
structure Sha1CertificateFingerprint where
  data : List Byte
  data_length : data.length = 20
deriving DecidableEq

/-- Certificates in an address space of 32 bits. -/
structure CertificateList where
  certificates : List DerEncodedCertificate
  length_lt : 8 * certificates.length < 2 ^ 32

structure FingerprintList where
  fingerprints : List Sha1CertificateFingerprint
  length_lt : 20 * fingerprints.length < 2 ^ 32

namespace CertificateList

variable (list : CertificateList)

def memory : List Byte := list.certificates.flatMap DerEncodedCertificate.memory

theorem memory_length : list.memory.length = 8 * list.certificates.length :=
  @length_flatMap_const _ _ DerEncodedCertificate.memory 8 (fun _ => rfl) list.certificates

def array : ObjectArray where
  count := list.certificates.length
  memory := list.memory
  count_le := by rw [memory_length]; omega
  length_lt := by rw [memory_length]; exact list.length_lt

def contents : List (List Byte) := list.certificates.map (·.contents)

/-- The code, the count and the contents would fit the message. -/
def Fits : Prop := 8 + list.contents.flatten.length ≤ 1024

end CertificateList

namespace FingerprintList

variable (list : FingerprintList)

def memory : List Byte := list.fingerprints.flatMap (·.data)

theorem memory_length : list.memory.length = 20 * list.fingerprints.length :=
  length_flatMap_const Sha1CertificateFingerprint.data_length list.fingerprints

def array : ObjectArray where
  count := list.fingerprints.length
  memory := list.memory
  count_le := by rw [memory_length]; omega
  length_lt := by rw [memory_length]; exact list.length_lt

/-- The code, the count and the fingerprints would fit the message. -/
def Fits : Prop := 8 + list.memory.length ≤ 1024

end FingerprintList

instance (list : CertificateList) : Decidable list.Fits := inferInstanceAs (Decidable (_ ≤ _))

instance (list : FingerprintList) : Decidable list.Fits := inferInstanceAs (Decidable (_ ≤ _))

/-! ## The messages -/

/-- The encoder stays inside its buffer and sends `message`. -/
def Sends (outcome : Except Access Encoded) (message : List Byte) : Prop :=
  ∃ encoded, outcome = .ok encoded ∧ encoded.datagrams = [message]

section Messages

variable {send : List Byte → Int} {info : FrameworkInfo}

theorem agpsPutCertificates_sends_iff {objects : ObjectArray} {message : List Byte} :
    Sends (agpsPutCertificates send info objects) message ↔ objects.count ≤ 1016 ∧
      message = overwrite (.replicate 1024 0) 0
        (intBytes info.code ++ (intBytes objects.count ++ objects.memory.take objects.count)) := by
  have laid := (buffPutInt_lays info.code).bind ((buffPutInt_lays objects.count).bind
    (buffPutStruct_lays objects.count_le (objects.count_le.trans_lt objects.length_lt)))
  have size :
      (intBytes info.code ++ (intBytes objects.count ++ objects.memory.take objects.count)).length ≤ 1024 ↔
      objects.count ≤ 1016 := by
    simp only [List.length_append, intBytes_length, List.length_take_of_le objects.count_le]
    omega
  have split : agpsPutCertificates send info objects = (do
      let c ← (do
        let c ← buffPutInt info.code hal2mnld
        let c ← buffPutInt objects.count c
        buffPutStruct objects.memory (wrap32 objects.count) c)
      return ⟨c.offset, [c.buff], some (send c.buff)⟩) := by
    simp only [agpsPutCertificates, bind_assoc]
  rw [Sends, split]
  constructor
  · rintro ⟨encoded, ran, equal⟩
    obtain ⟨c, put, finished⟩ := bind_eq_ok_iff.mp ran
    obtain ⟨fits, rfl⟩ := laid.hal2mnld_iff.mp put
    cases finished
    cases equal
    exact ⟨size.mp fits, rfl⟩
  · rintro ⟨few, rfl⟩
    have put := laid.hal2mnld_iff.mpr ⟨size.mpr few, rfl⟩
    exact ⟨_, bind_eq_ok_iff.mpr ⟨_, put, rfl⟩, rfl⟩

/-- Messages of the same kind tell the counts apart and, where these agree, the bytes that were copied. -/
theorem certificateMessage_inj {first second : ObjectArray} (few : first.count ≤ 1016)
    (fewer : second.count ≤ 1016) :
    overwrite (.replicate 1024 (0 : Byte)) 0
        (intBytes info.code ++ (intBytes first.count ++ first.memory.take first.count)) =
      overwrite (.replicate 1024 0) 0
        (intBytes info.code ++ (intBytes second.count ++ second.memory.take second.count)) ↔
    first.count = second.count ∧
      first.memory.take first.count = second.memory.take second.count := by
  constructor
  · intro equal
    simp only [overwrite, List.take_zero, List.nil_append, List.append_assoc] at equal
    have rest := List.append_cancel_left equal
    obtain ⟨counts, rest⟩ := List.append_inj rest rfl
    have same : first.count = second.count := by
      have read := congrArg intOfBytes (congrArg (· ++ []) counts)
      rw [intOfBytes_intBytes, intOfBytes_intBytes, wrap32_eq_self (by omega) (by omega),
        wrap32_eq_self (by omega) (by omega)] at read
      exact Int.ofNat_inj.mp read
    have lengths :
        (first.memory.take first.count).length = (second.memory.take second.count).length := by
      rw [List.length_take_of_le first.count_le, List.length_take_of_le second.count_le, same]
    exact ⟨same, (List.append_inj rest lengths).1⟩
  · rintro ⟨counts, bytes⟩
    rw [counts] at bytes ⊢
    rw [bytes]

end Messages

/-- Both messages are sent, and they are equal only if `same` holds. -/
def TellsApart (first second : Except Access Encoded) (same : Prop) : Prop :=
  ∃ left right, Sends first left ∧ Sends second right ∧ (left = right → same)

/-- As many bytes of an array as it has elements. -/
def ObjectArray.copied (objects : ObjectArray) : List Byte := objects.memory.take objects.count

theorem agpsPutCertificates_tellsApart_iff {send : List Byte → Int} {info : FrameworkInfo}
    {first second : ObjectArray} {same : Prop} :
    TellsApart (agpsPutCertificates send info first) (agpsPutCertificates send info second) same ↔
      first.count ≤ 1016 ∧ second.count ≤ 1016 ∧
        (same ∨ first.count ≠ second.count ∨ first.copied ≠ second.copied) := by
  simp only [TellsApart, agpsPutCertificates_sends_iff]
  constructor
  · rintro ⟨_, _, ⟨few, rfl⟩, ⟨fewer, rfl⟩, apart⟩
    rw [certificateMessage_inj few fewer] at apart
    refine ⟨few, fewer, ?_⟩
    rcases Decidable.em (first.count = second.count) with counts | counts
    · rcases Decidable.em (first.copied = second.copied) with bytes | bytes
      · exact .inl (apart ⟨counts, bytes⟩)
      · exact .inr (.inr bytes)
    · exact .inr (.inl counts)
  · rintro ⟨few, fewer, cases⟩
    refine ⟨_, _, ⟨few, rfl⟩, ⟨fewer, rfl⟩, ?_⟩
    rw [certificateMessage_inj few fewer]
    rintro ⟨counts, bytes⟩
    rcases cases with same | differ | differ
    · exact same
    · exact absurd counts differ
    · exact absurd bytes differ

/-- Two lists of certificates are told apart only by their counts and the bytes of the array that are copied, which
are lengths and addresses and never contents; two lists of fingerprints by the first of their bytes. -/
theorem agpsCertificates_tellApart_iff (send : List Byte → Int) :
    (∀ first second : CertificateList, first.Fits → second.Fits →
      (TellsApart (agpsInstallCertificates send first.array) (agpsInstallCertificates send second.array)
          (first.contents = second.contents) ↔
        first.certificates.length ≤ 1016 ∧ second.certificates.length ≤ 1016 ∧
          (first.contents = second.contents ∨ first.certificates.length ≠ second.certificates.length ∨
            first.array.copied ≠ second.array.copied))) ∧
    (∀ first second : FingerprintList, first.Fits → second.Fits →
      (TellsApart (agpsRevokeCertificates send first.array) (agpsRevokeCertificates send second.array)
          (first.fingerprints = second.fingerprints) ↔
        first.fingerprints = second.fingerprints ∨ first.fingerprints.length ≠ second.fingerprints.length ∨
          first.array.copied ≠ second.array.copied)) := by
  constructor
  · intro first second _ _
    exact agpsPutCertificates_tellsApart_iff
  · intro first second fits fitsToo
    rw [FingerprintList.Fits, FingerprintList.memory_length] at fits fitsToo
    have few : first.array.count ≤ 1016 := by change first.fingerprints.length ≤ 1016; omega
    have fewer : second.array.count ≤ 1016 := by change second.fingerprints.length ≤ 1016; omega
    apply agpsPutCertificates_tellsApart_iff.trans
    constructor
    · rintro ⟨-, -, apart⟩
      exact apart
    · intro apart
      exact ⟨few, fewer, apart⟩

/-- One certificate, at one place of memory. -/
def singleCertificate (contents : List Byte) : CertificateList := ⟨[⟨contents, 4096⟩], Nat.lt_of_sub_eq_succ rfl⟩

def noFingerprints : FingerprintList := ⟨[], Nat.lt_of_sub_eq_succ rfl⟩

def zeroFingerprint : FingerprintList := ⟨[⟨.replicate 20 0, List.length_replicate⟩], Nat.lt_of_sub_eq_succ rfl⟩

/-- Two certificates of different lengths, and a list without fingerprints next to one with one. -/
theorem agpsCertificates_tellApart_lengths :
    TellsApart (agpsInstallCertificates (fun _ => 0) (singleCertificate [1]).array)
        (agpsInstallCertificates (fun _ => 0) (singleCertificate [1, 2]).array)
        ((singleCertificate [1]).contents = (singleCertificate [1, 2]).contents) ∧
      TellsApart (agpsRevokeCertificates (fun _ => 0) noFingerprints.array)
        (agpsRevokeCertificates (fun _ => 0) zeroFingerprint.array)
        (noFingerprints.fingerprints = zeroFingerprint.fingerprints) := by
  have told := agpsCertificates_tellApart_iff (fun _ => 0)
  constructor
  · apply (told.1 _ _ (by decide) (by decide)).mpr
    exact ⟨by decide, by decide, .inr (.inr (by decide))⟩
  · apply (told.2 _ _ (by decide) (by decide)).mpr
    exact .inr (.inl (by decide))

theorem agpsInstallCertificates_not_tellApart : ¬ ∀ (send : List Byte → Int) (first second : CertificateList),
    first.Fits → second.Fits →
      TellsApart (agpsInstallCertificates send first.array) (agpsInstallCertificates send second.array)
        (first.contents = second.contents) := by
  intro apart
  have found := apart (fun _ => 0) (singleCertificate [1]) (singleCertificate [2])
    (by decide) (by decide)
  obtain ⟨-, -, contents | counts | copied⟩ := agpsPutCertificates_tellsApart_iff.mp found
  · revert contents
    decide
  · exact counts rfl
  · exact copied rfl

end Mt6582.Gps
