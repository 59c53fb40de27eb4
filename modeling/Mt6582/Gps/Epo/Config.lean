import Mathlib.Data.List.Induction
import Mathlib.Data.List.TakeWhile
import Mt6582.Gps.Nmea.Fields

/-! # The EPO configuration file

`gps_download_epo_enable` reads `gps.conf` with `fgets`, splits each line with `get_val`, and stores five of the
values after clamping them. A value is cut one byte short, which is right for a line that ends in CR LF and drops the
last digit of a line that ends in LF. A line that the buffer does not hold with its end, 98 bytes before a CR LF, ends the
reading.
-/

namespace Mt6582.Gps

abbrev tab : Byte := 9
abbrev space : Byte := 32
abbrev hash : Byte := 35
abbrev equals : Byte := 61

/-- The keys that are looked for; each has an `int` of its own. -/
inductive EpoKey where
  | epoEnable | dwDays | gpsEpoPeriod | wifiEpoPeriod | epoWifiTrigger
deriving DecidableEq, Repr

/-- `gps_epo_enable`, `gps_epo_download_days`, `gps_epo_period`, `wifi_epo_period` and `gps_epo_wifi_trigger`. -/
abbrev EpoConfig := EpoKey → Int

def EpoKey.text : EpoKey → List Byte
  | epoEnable => lit ['E', 'P', 'O', '_', 'E', 'N', 'A', 'B', 'L', 'E']
  | dwDays => lit ['D', 'W', '_', 'D', 'A', 'Y', 'S']
  | gpsEpoPeriod => lit ['G', 'P', 'S', '_', 'E', 'P', 'O', '_', 'P', 'E', 'R', 'I', 'O', 'D']
  | wifiEpoPeriod => lit ['W', 'I', 'F', 'I', '_', 'E', 'P', 'O', '_', 'P', 'E', 'R', 'I', 'O', 'D']
  | epoWifiTrigger => lit ['E', 'P', 'O', '_', 'W', 'I', 'F', 'I', '_', 'T', 'R', 'I', 'G', 'G', 'E', 'R']

/-- Values out of range are replaced by a default. -/
def EpoKey.clamp : EpoKey → Int → Int
  | epoEnable, value => if value ≠ 1 ∧ value ≠ 0 then 1 else value
  | dwDays, value => if value > 30 ∨ value < 0 then 30 else value
  | gpsEpoPeriod, value => if value ≠ 30 ∧ value ≠ 3 ∧ value ≠ 15 then 3 else value
  | wifiEpoPeriod, value => if value ≠ 30 ∧ value ≠ 3 ∧ value ≠ 15 then 1 else value
  | epoWifiTrigger, value => if value ≠ 1 ∧ value ≠ 0 then 1 else value

/-- The initial values of the variables. -/
def EpoConfig.initial : EpoConfig
  | .epoEnable => 1
  | .dwDays => 30
  | .gpsEpoPeriod => 3
  | .wifiEpoPeriod => 1
  | .epoWifiTrigger => 0

section Reading

/-- `GPS_CONF_FILE_SIZE` -/
def gpsConfFileSize : Nat := 100

/-- What successive calls of `fgets` return: a line with its newline, or as much of it as the buffer holds. -/
def fgetsReads (read : List Byte) : List Byte → List (List Byte)
  | [] => if read = [] then [] else [read]
  | c :: rest =>
      if c = lf ∨ read.length + 1 = gpsConfFileSize - 1 then (read ++ [c]) :: fgetsReads [] rest
      else fgetsReads (read ++ [c]) rest

/-- `IS_SPACE` -/
def isSpace (c : Byte) : Bool := c = space || c = tab || c = lf

/-- A line as `get_val` takes it apart: a comment, or a key and its value. -/
inductive ConfItem where
  | comment
  | entry (key val : List Byte)
deriving DecidableEq, Repr

/-- `get_val`; `none` where it returns -1. The text ends at the first NUL. -/
def getVal (result : List Byte) : Option ConfItem :=
  let str := result.takeWhile (· ≠ 0)
  if str = [] then none
  else if str.head? = some hash then some .comment
  else if str.getLast? ≠ some lf ∧ gpsConfFileSize - 1 ≤ str.length then none
  else
    let key := str.takeWhile (· ≠ equals)
    if key.length = str.length then none
    else some (.entry key (((str.drop (key.length + 1)).dropWhile isSpace).takeWhile (!isSpace ·)))

/-- A value as the callers of `get_val` read it, `str2int(val, val + strlen(val) - 1)`. -/
def confInt (val : List Byte) : Int := strToInt val.dropLast

/-- The comparisons of a key with the keys that are looked for. -/
def EpoConfig.store (config : EpoConfig) (key val : List Byte) : EpoConfig :=
  fun k => if key = k.text then k.clamp (confInt val) else config k

/-- The loop over the lines; a line that cannot be split ends it. -/
def readConf (config : EpoConfig) : List (List Byte) → EpoConfig × Int
  | [] => (config, config .epoEnable)
  | result :: rest =>
      match getVal result with
      | none => (config, 1)
      | some .comment => readConf config rest
      | some (.entry key val) => readConf (config.store key val) rest

def gpsDownloadEpoEnable (config : EpoConfig) : Option (List Byte) → EpoConfig × Int
  | none => (config, 1)
  | some file => readConf config (fgetsReads [] file)

end Reading

section Clamped

/-- Each variable holds a value that its clamping keeps. -/
def EpoConfig.Clamped (config : EpoConfig) : Prop := ∀ k : EpoKey, k.clamp (config k) = config k

theorem EpoKey.clamp_clamp (k : EpoKey) (value : Int) :
    k.clamp (k.clamp value) = k.clamp value := by
  cases k <;> simp only [clamp] <;> split_ifs <;> omega

theorem EpoConfig.Clamped.store {config : EpoConfig} (clamped : config.Clamped)
    (key val : List Byte) :
    (config.store key val).Clamped := by
  intro k
  rw [EpoConfig.store]
  split
  · exact k.clamp_clamp _
  · exact clamped k

theorem EpoConfig.Clamped.readConf {config : EpoConfig} (clamped : config.Clamped)
    (reads : List (List Byte)) :
    (readConf config reads).1.Clamped := by
  induction reads generalizing config with
  | nil => exact clamped
  | cons result rest ih =>
    rw [Gps.readConf]
    split
    · exact clamped
    · exact ih clamped
    · exact ih (clamped.store _ _)

/-- Whatever the file, the variables stay in range. -/
theorem EpoConfig.Clamped.gpsDownloadEpoEnable {config : EpoConfig} (clamped : config.Clamped)
    (file : Option (List Byte)) :
    (gpsDownloadEpoEnable config file).1.Clamped := by
  cases file with
  | none => exact clamped
  | some file => exact clamped.readConf _

theorem EpoConfig.initial_clamped : EpoConfig.initial.Clamped := by
  intro k
  cases k <;> rfl

end Clamped

section Lines

inductive LineEnd where
  | lf | crlf
deriving DecidableEq, Repr

def LineEnd.bytes : LineEnd → List Byte
  | .lf => [Gps.lf]
  | .crlf => [cr, Gps.lf]

/-- The lines of a well-formed file. -/
inductive ConfLine where
  | comment (text : List Byte) (eol : LineEnd)
  | entry (key digits : List Byte) (eol : LineEnd)
deriving DecidableEq, Repr

namespace ConfLine

/-- The line without its end. -/
def text : ConfLine → List Byte
  | comment text _ => hash :: text
  | entry key digits _ => key ++ equals :: digits

def eol : ConfLine → LineEnd
  | comment _ eol => eol
  | entry _ _ eol => eol

def bytes (line : ConfLine) : List Byte := line.text ++ line.eol.bytes

/-- The line is read by one call of `fgets`. -/
def Fits (line : ConfLine) : Prop := line.bytes.length < gpsConfFileSize

instance (line : ConfLine) : Decidable line.Fits := Nat.decLt _ _

def WellFormed : ConfLine → Prop
  | comment text _ => lf ∉ text
  | entry key digits _ => (∀ c ∈ key, c ≠ 0 ∧ c ≠ lf ∧ c ≠ equals) ∧ key.head? ≠ some hash ∧ digits ≠ [] ∧
      IsDigits digits

/-- The digits and the end of a line with this key. -/
def valueOf (k : EpoKey) : ConfLine → Option (List Byte × LineEnd)
  | comment _ _ => none
  | entry key digits eol => if key = k.text then some (digits, eol) else none

end ConfLine

def confFile (lines : List ConfLine) : List Byte := (lines.map ConfLine.bytes).flatten

/-- The last line with a key. -/
def lastValue (lines : List ConfLine) (k : EpoKey) : Option (List Byte × LineEnd) :=
  lines.reverse.findSome? (ConfLine.valueOf k)

/-- A file of comments and decimal values, each line shorter than 99 bytes before its end. -/
structure ConfText (lines : List ConfLine) : Prop where
  wellFormed : ∀ line ∈ lines, line.WellFormed
  short : ∀ line ∈ lines, line.text.length < 99

/-- The value of the last line with the key, taken through `seen` and clamped; the value before without such a line. -/
def valueAfter (config : EpoConfig) (seen : LineEnd → Nat → Int) (lines : List ConfLine) (k : EpoKey) : Int :=
  match lastValue lines k with
  | none => config k
  | some (digits, eol) => k.clamp (seen eol (digitsValue digits))

/-- Every variable has the value of the last line with its key, and is left alone without one. -/
def ReadFaithfully (config : EpoConfig) (lines : List ConfLine) : Prop :=
  ∀ k : EpoKey, (gpsDownloadEpoEnable config (some (confFile lines))).1 k = valueAfter config (fun _ value => value) lines k

/-- What is read of a value, by the end of its line. -/
def LineEnd.seen : LineEnd → Nat → Nat
  | .lf, value => value / 10
  | .crlf, value => value

/-- For every key, the last value before a line that does not fit, cut and in 32 bits, is clamped as the last value of all
lines is. -/
def ValuesSurvive (config : EpoConfig) (lines : List ConfLine) : Prop :=
  ∀ k, valueAfter config (fun eol value => wrap32 (eol.seen value : Nat)) (lines.takeWhile fun line => line.Fits) k =
    valueAfter config (fun _ value => value) lines k

section Line

theorem fgetsReads_line {body : List Byte} (fresh : lf ∉ body) (read rest : List Byte)
    (fits : read.length + body.length + 1 < gpsConfFileSize) :
    fgetsReads read (body ++ lf :: rest) = (read ++ body ++ [lf]) :: fgetsReads [] rest := by
  induction body generalizing read with
  | nil => simp [fgetsReads]
  | cons c body ih =>
    rw [List.mem_cons, not_or] at fresh
    rw [List.length_cons] at fits
    rw [List.cons_append, fgetsReads, if_neg, ih fresh.2, List.append_assoc read]
    · rfl
    · rw [List.length_append, List.length_singleton]
      omega
    · exact not_or.mpr ⟨fun same => fresh.1 same.symm, by omega⟩

/-- A line that fills the buffer without its newline is cut. -/
theorem fgetsReads_full {body : List Byte} (fresh : lf ∉ body) (read rest : List Byte)
    (nonempty : body ≠ []) (full : read.length + body.length + 1 = gpsConfFileSize) :
    fgetsReads read (body ++ rest) = (read ++ body) :: fgetsReads [] rest := by
  induction body generalizing read with
  | nil => exact absurd rfl nonempty
  | cons c body ih =>
    rw [List.mem_cons, not_or] at fresh
    rw [List.length_cons] at full
    rw [List.cons_append, fgetsReads]
    cases body with
    | nil =>
      rw [if_pos (.inr (by simp at full; omega))]
      rfl
    | cons next body =>
      have early : ¬ (c = lf ∨ read.length + 1 = gpsConfFileSize - 1) :=
        not_or.mpr ⟨fun same => fresh.1 same.symm, by rw [List.length_cons] at full; omega⟩
      rw [if_neg early, ih fresh.2 (read ++ [c]) (List.cons_ne_nil _ _), List.append_assoc]
      · rfl
      · rw [List.length_append, List.length_singleton]
        omega

theorem digitsValue_dropLast {digits : List Byte} (each : IsDigits digits) :
    digitsValue digits.dropLast = digitsValue digits / 10 := by
  induction digits using List.reverseRecOn with
  | nil => rfl
  | append_singleton digits c =>
    have := digit_bounds (each c (by simp))
    rw [List.dropLast_concat, digitsValue, digitsValue, List.foldl_concat]
    omega

theorem digit_not_space {c : Byte} (digit : digit0 ≤ c ∧ c ≤ 57) :
    isSpace c = false ∧ c ≠ 0 ∧ c ≠ lf := by
  obtain ⟨low, -⟩ := digit_bounds digit
  have above (other : Byte) (small : other.toNat < 48) : c ≠ other := by
    rintro rfl
    omega
  refine ⟨?_, above 0 (by decide), above lf (by decide)⟩
  simp [isSpace, above space (by decide), above tab (by decide), above lf (by decide)]

/-- A text with the carriage return that its line ends in. -/
def LineEnd.val (text : List Byte) : LineEnd → List Byte
  | .lf => text
  | .crlf => text ++ [cr]

theorem LineEnd.append_bytes (text : List Byte) (eol : LineEnd) :
    text ++ eol.bytes = eol.val text ++ [Gps.lf] := by
  cases eol with
  | lf => rfl
  | crlf => rw [val, List.append_assoc]; rfl

theorem LineEnd.not_mem_val {text : List Byte} {c : Byte} (fresh : c ∉ text) (other : c ≠ cr)
    (eol : LineEnd) :
    c ∉ eol.val text := by
  cases eol with
  | lf => exact fresh
  | crlf => simp [val, fresh, other]

theorem confInt_val {digits : List Byte} (each : IsDigits digits) (eol : LineEnd) :
    confInt (eol.val digits) = wrap32 (eol.seen (digitsValue digits) : Nat) := by
  cases eol with
  | lf =>
    have front : IsDigits digits.dropLast := fun c member => each c (List.dropLast_subset _ member)
    rw [LineEnd.seen, ← digitsValue_dropLast each, ← strToInt_digits front]
    rfl
  | crlf => rw [LineEnd.seen, ← strToInt_digits each, confInt, LineEnd.val, List.dropLast_concat]

private theorem takeWhile_space {digits : List Byte} (nonempty : digits ≠ [])
    (each : IsDigits digits) (eol : LineEnd) :
    ((digits ++ eol.bytes).dropWhile isSpace).takeWhile (!isSpace ·) = eol.val digits := by
  have all : ∀ c ∈ digits, (!isSpace c) = true := by
    intro c member
    rw [(digit_not_space (each c member)).1]
    rfl
  have skipped : (digits ++ eol.bytes).dropWhile isSpace = digits ++ eol.bytes := by
    obtain ⟨c, rest, rfl⟩ := List.exists_cons_of_ne_nil nonempty
    have first := (digit_not_space (each c List.mem_cons_self)).1
    rw [List.cons_append, List.dropWhile_cons_of_neg (by simp [first])]
  rw [skipped, List.takeWhile_append_of_pos all]
  cases eol with
  | lf => simp [LineEnd.bytes, LineEnd.val, isSpace]
  | crlf => rfl

theorem getVal_comment (text rest : List Byte) : getVal (hash :: text ++ rest) = some .comment := by
  simp [getVal, hash]

section Entry

variable {key digits : List Byte} {eol : LineEnd}

/-- No byte of an entry ends a string or a line. -/
theorem ConfLine.plain_entry (wf : (ConfLine.entry key digits eol).WellFormed) :
    ∀ c ∈ key ++ equals :: digits, c ≠ 0 ∧ c ≠ lf := by
  obtain ⟨plain, -, -, each⟩ := wf
  intro c member
  rcases List.mem_append.mp member with inKey | inRest
  · exact ⟨(plain c inKey).1, (plain c inKey).2.1⟩
  · rcases List.mem_cons.mp inRest with rfl | inDigits
    · decide
    · exact (digit_not_space (each c inDigits)).2

/-- An entry is a string and no comment, whatever follows it. -/
theorem ConfLine.string_entry (wf : (ConfLine.entry key digits eol).WellFormed) {ending : List Byte}
    (plain : 0 ∉ ending) :
    (key ++ equals :: digits ++ ending).takeWhile (· ≠ 0) = key ++ equals :: digits ++ ending ∧
      (key ++ equals :: digits ++ ending).head? ≠ some hash := by
  constructor
  · rw [List.takeWhile_eq_self_iff]
    intro c member
    rcases List.mem_append.mp member with inLine | inEnd
    · simpa using (plain_entry wf c inLine).1
    · exact decide_eq_true (ne_of_mem_of_not_mem inEnd plain)
  · cases key with
    | nil => exact of_decide_eq_true rfl
    | cons c key => exact wf.2.1

theorem getVal_entry (wf : (ConfLine.entry key digits eol).WellFormed) :
    getVal (key ++ equals :: digits ++ eol.bytes) = some (.entry key (eol.val digits)) := by
  let str := key ++ equals :: digits ++ eol.bytes
  obtain ⟨text, start⟩ : str.takeWhile (· ≠ 0) = str ∧ str.head? ≠ some hash :=
    ConfLine.string_entry wf (by cases eol <;> decide)
  obtain ⟨plain, -, nonempty, each⟩ := wf
  have name : str.takeWhile (· ≠ equals) = key := by
    simp only [str]
    rw [List.append_assoc,
      List.takeWhile_append_of_pos (by simpa using fun c member => (plain c member).2.2)]
    simp
  have last : str.getLast? = some lf := by
    simp only [str]
    rw [LineEnd.append_bytes, List.getLast?_concat]
  have value : str.drop (key.length + 1) = digits ++ eol.bytes := by
    simp only [str]
    rw [List.append_assoc, ← List.drop_drop, List.drop_left]
    rfl
  have shorter : key.length ≠ str.length := by simp [str]
  have present : str ≠ [] := by simp [str]
  change getVal str = _
  rw [getVal]
  dsimp only
  rw [text, name, if_neg present, if_neg start, if_neg (by simp [last]), if_neg shorter, value,
    takeWhile_space nonempty each]

/-- An entry that fills the buffer without its newline is refused. -/
theorem getVal_full (wf : (ConfLine.entry key digits eol).WellFormed)
    (full : (key ++ equals :: digits ++ [cr]).length = gpsConfFileSize - 1) :
    getVal (key ++ equals :: digits ++ [cr]) = none := by
  obtain ⟨text, start⟩ := ConfLine.string_entry wf (show 0 ∉ [cr] by decide)
  rw [getVal]
  dsimp only
  rw [text, if_neg (by simp), if_neg start, if_pos ⟨by rw [List.getLast?_concat]; decide, full.ge⟩]

end Entry

theorem ConfLine.text_fresh {line : ConfLine} (wf : line.WellFormed) : lf ∉ line.text := by
  cases line with
  | comment text eol => simpa [ConfLine.text, hash, lf, WellFormed] using wf
  | entry key digits eol => exact fun member => (plain_entry wf lf member).2 rfl

/-- A well-formed line that fits is one call of `fgets`. -/
theorem fgetsReads_bytes {line : ConfLine} (wf : line.WellFormed) (fits : line.Fits)
    (rest : List Byte) :
    fgetsReads [] (line.bytes ++ rest) = line.bytes :: fgetsReads [] rest := by
  have fresh := line.eol.not_mem_val (ConfLine.text_fresh wf) (by decide)
  rw [ConfLine.Fits] at fits
  rw [ConfLine.bytes, LineEnd.append_bytes] at fits ⊢
  rw [List.append_assoc]
  exact fgetsReads_line fresh [] rest (by simpa using fits)

/-- A short line that does not fit has 98 bytes before a CR LF, and its newline is read by a call of its own. -/
theorem fgetsReads_unfit {line : ConfLine} (wf : line.WellFormed) (short : line.text.length < 99)
    (unfit : ¬ line.Fits)
    (rest : List Byte) : (line.text ++ [cr]).length = gpsConfFileSize - 1 ∧
      fgetsReads [] (line.bytes ++ rest) = (line.text ++ [cr]) :: [lf] :: fgetsReads [] rest := by
  have fresh := line.eol.not_mem_val (ConfLine.text_fresh wf) (by decide)
  have size : gpsConfFileSize = 100 := rfl
  rw [ConfLine.Fits, ConfLine.bytes, List.length_append] at unfit
  cases found : line.eol with
  | lf =>
    rw [found, LineEnd.bytes, List.length_singleton] at unfit
    omega
  | crlf =>
    rw [found, LineEnd.bytes, List.length_cons, List.length_singleton] at unfit
    have full : (line.text ++ [cr]).length = gpsConfFileSize - 1 := by
      rw [List.length_append, List.length_singleton]
      omega
    rw [found, LineEnd.val] at fresh
    have cut := fgetsReads_full fresh [] (lf :: rest) (by simp) (by rw [full]; rfl)
    refine ⟨full, ?_⟩
    rw [ConfLine.bytes, LineEnd.append_bytes, found, LineEnd.val, List.append_assoc,
      List.singleton_append, cut]
    simp [fgetsReads]

/-- A line that does not fit ends the reading: an entry is refused for its length, and after a comment the lone newline
is. -/
theorem readConf_unfit {line : ConfLine} (wf : line.WellFormed) (short : line.text.length < 99)
    (unfit : ¬ line.Fits)
    (config : EpoConfig) (rest : List Byte) :
    (readConf config (fgetsReads [] (line.bytes ++ rest))).1 = config := by
  obtain ⟨full, reads⟩ := fgetsReads_unfit wf short unfit rest
  rw [reads, readConf]
  cases line with
  | comment text eol =>
    rw [ConfLine.text, getVal_comment]
    rfl
  | entry key digits eol => rw [ConfLine.text, getVal_full wf full]

end Line

section Files

/-- A line's effect: the value of the key it has, cut as its end cuts it. -/
def ConfLine.apply (config : EpoConfig) : ConfLine → EpoConfig
  | comment _ _ => config
  | entry key digits eol => config.store key (eol.val digits)

theorem readConf_confFile {lines : List ConfLine} (conf : ConfText lines) (config : EpoConfig) :
    (readConf config (fgetsReads [] (confFile lines))).1 =
      (lines.takeWhile fun line => line.Fits).foldl ConfLine.apply config := by
  induction lines generalizing config with
  | nil => rfl
  | cons line lines ih =>
    have wf := conf.wellFormed line List.mem_cons_self
    have rest : ConfText lines :=
      ⟨fun line member => conf.wellFormed line (List.mem_cons_of_mem _ member),
      fun line member => conf.short line (List.mem_cons_of_mem _ member)⟩
    have split : confFile (line :: lines) = line.bytes ++ confFile lines := by simp [confFile]
    rw [split]
    rcases Decidable.em line.Fits with fits | unfit
    · rw [fgetsReads_bytes wf fits, readConf, List.takeWhile_cons_of_pos (by simpa using fits),
        List.foldl_cons]
      cases line with
      | comment text eol =>
        rw [ConfLine.bytes, ConfLine.text, getVal_comment]
        exact ih rest config
      | entry key digits eol =>
        rw [ConfLine.bytes, ConfLine.text, ConfLine.eol, getVal_entry wf]
        exact ih rest _
    · rw [readConf_unfit wf (conf.short line List.mem_cons_self) unfit,
        List.takeWhile_cons_of_neg (by simpa using unfit)]
      rfl

/-- The last line with a key decides. -/
theorem foldl_apply {lines : List ConfLine} (wellFormed : ∀ line ∈ lines, line.WellFormed)
    (config : EpoConfig) (k : EpoKey) :
    lines.foldl ConfLine.apply config k =
      valueAfter config (fun eol value => wrap32 (eol.seen value : Nat)) lines k := by
  induction lines using List.reverseRecOn with
  | nil => rfl
  | append_singleton lines line ih =>
    have before := ih fun line member => wellFormed line (List.mem_append_left _ member)
    have wf := wellFormed line (by simp)
    rw [List.foldl_concat, valueAfter, lastValue, List.reverse_concat, List.findSome?_cons]
    cases line with
    | comment text eol => exact before
    | entry key digits eol =>
      dsimp only [ConfLine.apply, EpoConfig.store, ConfLine.valueOf]
      split
      · rw [confInt_val wf.2.2.2]
      · exact before

/-- The file is read faithfully exactly when cutting the values, reading them in 32 bits and stopping at a line that does not
fit change nothing after the clamping. -/
theorem readFaithfully_iff {lines : List ConfLine} (conf : ConfText lines) (config : EpoConfig) :
    ReadFaithfully config lines ↔ ValuesSurvive config lines := by
  have read (k : EpoKey) : (gpsDownloadEpoEnable config (some (confFile lines))).1 k =
      valueAfter config (fun eol value => wrap32 (eol.seen value : Nat)) (lines.takeWhile fun line => line.Fits) k := by
    have wellFormed : ∀ line ∈ lines.takeWhile (fun line => line.Fits), line.WellFormed :=
      fun line member => conf.wellFormed line ((List.takeWhile_sublist _).mem member)
    rw [gpsDownloadEpoEnable, readConf_confFile conf, foldl_apply wellFormed]
  constructor
  · intro faithful k
    rw [← read k]
    exact faithful k
  · intro survive k
    rw [read k]
    exact survive k

/-- One line that sets the period to 30 days. -/
def periodLine (eol : LineEnd) : ConfLine := .entry EpoKey.gpsEpoPeriod.text (lit ['3', '0']) eol

theorem periodLine_conf (eol : LineEnd) :
    ConfText [.comment (lit ['d', 'a', 'y', 's']) eol, periodLine eol] := by
  constructor
  · simp only [List.forall_mem_cons, ConfLine.WellFormed, periodLine]
    refine ⟨by decide, ⟨?_, by decide, by decide, by decide⟩, by simp⟩
    simp only [EpoKey.text, lit, List.map_cons, List.map_nil, List.forall_mem_cons,
      List.not_mem_nil, false_implies, implies_true, and_true]
    decide
  · cases eol <;> decide

theorem readFaithfully_crlf : ConfText [.comment (lit ['d', 'a', 'y', 's']) .crlf, periodLine .crlf] ∧
    ReadFaithfully EpoConfig.initial [.comment (lit ['d', 'a', 'y', 's']) .crlf, periodLine .crlf] := by
  refine ⟨periodLine_conf .crlf, (readFaithfully_iff (periodLine_conf .crlf) _).mpr ?_⟩
  intro k
  cases k <;> decide

/-- The same lines, ended by LF: the period becomes 3 days. -/
theorem not_readFaithfully_lf : ConfText [.comment (lit ['d', 'a', 'y', 's']) .lf, periodLine .lf] ∧
    ¬ ReadFaithfully EpoConfig.initial [.comment (lit ['d', 'a', 'y', 's']) .lf, periodLine .lf] := by
  refine ⟨periodLine_conf .lf, fun faithful => ?_⟩
  have period := faithful .gpsEpoPeriod
  revert period
  decide

end Files

end Lines

end Mt6582.Gps
