import Mathlib.Data.Bool.AllAny
import Strom.Go.Errors
import Strom.Toml.Documents

/-!
# The release train file (`versioning.py`)

`set_train` reads `version.toml`, keeps its `[rc]` settings and writes the document again by
formatting strings; `load_train` reads the train back.  The label of the images is put between
quotes as it stands, so the settings come back exactly where the label is plain text
(`set_train_keeps_iff`): a quote or an escape of the old file is lost or breaks the document.
-/

namespace Strom.Tools

open Strom.Go Strom.Python Strom.Toml

/-- The exceptions of the modelled functions, with their messages. -/
inductive PyError where
  | value (message : String)
  | key (message : String)
  | type (message : String)
  | attribute (message : String)
  | overflow (message : String)
deriving DecidableEq, Repr

def PyError.message : PyError → String
  | .value message | .key message | .type message | .attribute message | .overflow message => message

/-- `except (KeyError, TypeError, ValueError)`. -/
def PyError.caught : PyError → Bool
  | .value _ | .key _ | .type _ => true
  | .attribute _ | .overflow _ => false

/-- What Python's conversions make of floats, dates and times, of the text of an integer, and the
    text of what is not a string. -/
structure Builtins where
  boolOther : String → Bool
  intOther : String → Except PyError Int
  intString : String → Except PyError Int
  str : Value → String
  typeOther : String → String
  str_string : ∀ s, str (.string s) = s

namespace Builtins

variable (py : Builtins)

def typeName : Value → String
  | .boolean _ => "bool"
  | .integer _ => "int"
  | .string _ => "str"
  | .array _ => "list"
  | .table _ => "dict"
  | .other text => py.typeOther text

/-- `bool(value)`. -/
def bool : Value → Bool
  | .boolean b => b
  | .integer n => n != 0
  | .string s => s != ""
  | .array items => !items.isEmpty
  | .table entries => !entries.isEmpty
  | .other text => py.boolOther text

/-- `int(value)`. -/
def int : Value → Except PyError Int
  | .boolean b => .ok (if b then 1 else 0)
  | .integer n => .ok n
  | .string s => py.intString s
  | .other text => py.intOther text
  | v => .error (.type ("int() argument must be a string, a bytes-like object or a real number, not '" ++
      py.typeName v ++ "'"))

/-- `container[key]`. -/
def item (container : Value) (key : String) : Except PyError Value :=
  match container with
  | .table entries =>
    match entries.lookup key with
    | some v => .ok v
    | none => .error (.key ("'" ++ key ++ "'"))
  | .string _ => .error (.type "string indices must be integers, not 'str'")
  | .array _ => .error (.type "list indices must be integers or slices, not str")
  | v => .error (.type ("'" ++ py.typeName v ++ "' object is not subscriptable"))

end Builtins

/-- `table.get(key, default)`. -/
def dictGet (table : Table) (key : String) (default : Value) : Value := (table.lookup key).getD default

structure Train where
  major : Nat
  minor : Nat
deriving DecidableEq, Repr

section Functions

variable (toml : Grammar) (py : Builtins)

/-- `tomllib.loads(path.read_text(..))` of a file with this text. -/
def readToml (file : List Char) : Except PyError Table :=
  (loads toml (universalNewlines file)).mapError .value

def loadTrain (path : String) (file : List Char) : Except PyError Train := do
  let data ← readToml toml file
  let train := dictGet data "train" (.table [])
  let parts : Except PyError (Int × Int) := do
    let major ← py.int (← py.item train "major")
    let minor ← py.int (← py.item train "minor")
    return (major, minor)
  match parts with
  | .error exc =>
    throw (if exc.caught then .value ("invalid [train] section in " ++ path ++ ": " ++ exc.message) else exc)
  | .ok (major, minor) =>
    if major < 0 ∨ minor < 0 then
      throw (.value ("[train] major/minor must be non-negative in " ++ path))
    return { major := major.toNat, minor := minor.toNat }

/-- The document up to the label of the images and its opening quote, with these texts in their places. -/
def beforeLabel (major minor prBinaries : List Char) : List Char :=
  "# Strom release train control.\n".toList ++
  ("# See CONTRIBUTING.md#release-and-maintainer-notes for how this file is used.\n".toList ++
  ("# Managed by `strom release set-train`; edit via that command or a reviewed PR.\n".toList ++
  ("\n".toList ++
  ("[train]\n".toList ++
  ("major = ".toList ++ (major ++ ("\n".toList ++
  ("minor = ".toList ++ (minor ++ ("\n".toList ++
  ("\n".toList ++
  ("[rc]\n".toList ++
  ("pr_binaries = ".toList ++ (prBinaries ++ ("\n".toList ++
  "image_label = \"".toList)))))))))))))))

def renderTrainToml (major minor : Int) (prBinaries : Bool) (imageLabel : String) :
    Except PyError (List Char) := do
  if major < 0 ∨ minor < 0 then
    throw (.value "major/minor must be non-negative")
  let prBinariesValue := if prBinaries then "true" else "false"
  let majorText ← (str major.toNat).mapError .value
  let minorText ← (str minor.toNat).mapError .value
  return beforeLabel majorText minorText prBinariesValue.toList ++ (imageLabel.toList ++ ['"', '\n'])

/-- The text that `set_train` writes; the file may not exist. -/
def setTrain (file : Option (List Char)) (major minor : Int) : Except PyError (List Char) := do
  let existing ← match file with
    | none => pure []
    | some file => readToml toml file
  match dictGet existing "rc" (.table []) with
  | .table rc =>
    let prBinaries := py.bool (dictGet rc "pr_binaries" (.boolean true))
    let imageLabel := py.str (dictGet rc "image_label" (.string "release-candidate"))
    renderTrainToml major minor prBinaries imageLabel
  | rc => throw (.attribute ("'" ++ py.typeName rc ++ "' object has no attribute 'get'"))

end Functions

/-! ## The settings -/

/-- A setting as `set_train` reads it: an absent one has its default. -/
def rcSetting (data : Table) (key : String) (absent : Value) : Value :=
  match dictGet data "rc" (.table []) with
  | .table rc => dictGet rc key absent
  | _ => absent

def prBinaries (data : Table) : Value := rcSetting data "pr_binaries" (.boolean true)

def imageLabel (data : Table) : Value := rcSetting data "image_label" (.string "release-candidate")

theorem beforeLabel_length (major minor : Nat) (prBinaries : List Char) :
    21 ≤ (beforeLabel (Nat.toDigits 10 major) (Nat.toDigits 10 minor) prBinaries).length := by
  unfold beforeLabel
  rw [List.length_append]
  exact le_trans (by decide) (Nat.le_add_right _ _)

theorem beforeLabel_fresh (major minor : Nat) (prBinaries : Bool) :
    ∀ c ∈ beforeLabel (Nat.toDigits 10 major) (Nat.toDigits 10 minor)
    (if prBinaries then "true" else "false").toList, c ≠ '\r' := by
  have digits (n : Nat) : ∀ c ∈ Nat.toDigits 10 n, c ≠ '\r' := by
    rintro c inside rfl
    cases isDigit_of_mem_str inside
  have flag : ∀ c ∈ (if prBinaries then "true" else "false").toList, c ≠ '\r' := by
    cases prBinaries <;> simp
  unfold beforeLabel
  simp only [List.forall_mem_append]
  exact ⟨by simp, by simp, by simp, by simp, by simp, by simp, digits major, by simp, by simp, digits minor,
    by simp, by simp, by simp, by simp, flag, by simp, by simp⟩

section Reading

variable (toml : Grammar)

/-- The tables that stand in front of the label. -/
def tablesBefore (major minor : Nat) (prBinaries : Bool) : Tables :=
  [("train", [("major", .integer major), ("minor", .integer minor)]),
    ("rc", [("pr_binaries", .boolean prBinaries)])]

variable {major minor : Nat} (majorFits : (Nat.toDigits 10 major).length ≤ maxStrDigits)
  (minorFits : (Nat.toDigits 10 minor).length ≤ maxStrDigits)
include majorFits minorFits

theorem read_beforeLabel (prBinaries : Bool) (fuel : Nat) (rest : List Char) :
    readDocument toml (fuel + 18) [] (beforeLabel (Nat.toDigits 10 major) (Nat.toDigits 10 minor)
        (if prBinaries then "true" else "false").toList ++ rest) =
      readDocument toml fuel (tablesBefore major minor prBinaries) ("image_label = \"".toList ++ rest) := by
  have comment₁ := read_comment toml (fuel + 16) []
    (show "# Strom release train control.\n".toList =
      '#' :: (" Strom release train control.".toList ++ ['\n']) by rfl) (List.all_iff_forall_prop.mp (by decide))
  have comment₂ := read_comment toml (fuel + 14) []
    (show "# See CONTRIBUTING.md#release-and-maintainer-notes for how this file is used.\n".toList =
      '#' :: (" See CONTRIBUTING.md#release-and-maintainer-notes for how this file is used.".toList ++ ['\n'])
      by rfl) (List.all_iff_forall_prop.mp (by decide))
  have comment₃ := read_comment toml (fuel + 12) []
    (show "# Managed by `strom release set-train`; edit via that command or a reviewed PR.\n".toList =
      '#' :: (" Managed by `strom release set-train`; edit via that command or a reviewed PR.".toList ++ ['\n'])
      by rfl) (List.all_iff_forall_prop.mp (by decide))
  have header₁ := read_header toml (fuel + 9) []
    (show "[train]\n".toList = '[' :: ("train".toList ++ [']', '\n']) by rfl)
    (List.all_iff_forall_prop.mp (by decide)) (by decide) rfl
  have majorLine (rest : List Char) := read_line toml (fuel + 7) [("train", [])]
    (show "major = ".toList = "major".toList ++ [' ', '=', ' '] by rfl)
    (by decide) (List.all_iff_forall_prop.mp (by decide)) (by simp)
    (scalar_toDigits majorFits rest) rfl
  have minorLine (rest : List Char) := read_line toml (fuel + 5) [("train", [("major", .integer major)])]
    (show "minor = ".toList = "minor".toList ++ [' ', '=', ' '] by rfl)
    (by decide) (List.all_iff_forall_prop.mp (by decide)) (by simp)
    (scalar_toDigits minorFits rest) rfl
  have header₂ := read_header toml (fuel + 2)
    [("train", [("major", .integer major), ("minor", .integer minor)])]
    (show "[rc]\n".toList = '[' :: ("rc".toList ++ [']', '\n']) by rfl)
    (List.all_iff_forall_prop.mp (by decide)) (by decide) rfl
  have flag (rest : List Char) : scalar ((if prBinaries then "true" else "false").toList ++ '\n' :: rest) =
      .value (.boolean prBinaries) ('\n' :: rest) := by
    cases prBinaries <;> rfl
  have binariesLine (rest : List Char) := read_line toml fuel
    [("train", [("major", .integer major), ("minor", .integer minor)]), ("rc", [])]
    (show "pr_binaries = ".toList = "pr_binaries".toList ++ [' ', '=', ' '] by rfl)
    (by decide) (List.all_iff_forall_prop.mp (by decide))
    (by simp) (flag rest) rfl
  unfold beforeLabel
  simp only [List.append_assoc]
  rw [comment₁, comment₂, comment₃, read_feed, header₁]
  refine (majorLine _).trans ?_
  refine (minorLine _).trans ?_
  rw [read_feed]
  refine (header₂ _).trans ?_
  exact binariesLine _

/-- The reader reaches the label with the tables in front of it. -/
theorem loads_document (prBinaries : Bool) (label : List Char) :
    ∃ fuel, loads toml (universalNewlines (beforeLabel (Nat.toDigits 10 major) (Nat.toDigits 10 minor)
        (if prBinaries then "true" else "false").toList ++ (label ++ ['"', '\n']))) =
      readDocument toml (fuel + 3) (tablesBefore major minor prBinaries)
        ("image_label = ".toList ++ '"' :: universalNewlines (label ++ ['"', '\n'])) := by
  rw [universalNewlines_append (beforeLabel_fresh major minor prBinaries)]
  have long := beforeLabel_length major minor (if prBinaries then "true" else "false").toList
  generalize universalNewlines (label ++ ['"', '\n']) = tail
  obtain ⟨fuel, enough⟩ := Nat.exists_eq_add_of_le long
  refine ⟨fuel + tail.length + 1, ?_⟩
  unfold loads
  rw [List.length_append, enough]
  have count : 21 + fuel + tail.length + 1 = fuel + tail.length + 1 + 3 + 18 := by omega
  rw [count, read_beforeLabel toml majorFits minorFits]
  rfl

end Reading

/-- The tables with the label. -/
def tablesWith (major minor : Nat) (prBinaries : Bool) (label : List Char) : Tables :=
  [("train", [("major", .integer major), ("minor", .integer minor)]),
    ("rc", [("pr_binaries", .boolean prBinaries), ("image_label", .string (String.ofList label))])]

section Label

variable (toml : Grammar) (major minor : Nat) (prBinaries : Bool)

theorem read_label (fuel : Nat) (text : List Char) :
    readDocument toml (fuel + 1) (tablesBefore major minor prBinaries) ("image_label = ".toList ++ '"' :: text) =
      match string ('"' :: text) with
      | none => .error "Illegal string"
      | some (v, after) =>
        if atLineEnd after then readDocument toml fuel (tablesWith major minor prBinaries v) after
        else toml.read (tablesWith major minor prBinaries v) .afterValue after := by
  refine (read_pair toml fuel (tablesBefore major minor prBinaries)
    (show "image_label = ".toList = "image_label".toList ++ [' ', '=', ' '] by rfl)
    (by decide) (List.all_iff_forall_prop.mp (by decide))
    (by simp [tablesBefore]) ('"' :: text)).trans ?_
  rw [scalar_quote]
  cases string ('"' :: text) with
  | none => rfl
  | some token => rfl

/-- A document that is read has the string that its label token denotes. -/
theorem imageLabel_read {fuel : Nat} {text : List Char} {data : Table}
    (read : readDocument toml (fuel + 1) (tablesBefore major minor prBinaries)
      ("image_label = ".toList ++ '"' :: text) = .ok data) :
    ∃ v after, string ('"' :: text) = some (v, after) ∧ imageLabel data = .string (String.ofList v) := by
  rw [read_label] at read
  cases token : string ('"' :: text) with
  | none =>
    rw [token] at read
    cases read
  | some token' =>
    obtain ⟨v, after⟩ := token'
    rw [token] at read
    have extended : Extends data (tablesWith major minor prBinaries v) := by
      simp only at read
      split at read
      · exact readDocument_keeps read
      · exact toml.keeps read
    have kept := extended "rc" "image_label" (.string (String.ofList v)) rfl
    refine ⟨v, after, rfl, ?_⟩
    unfold imageLabel rcSetting dictGet
    unfold field at kept
    split at kept
    · next entries table =>
      rw [table]
      simp only [Option.getD_some, kept]
    · cases kept

theorem read_plain_label {label : List Char} (plain : Plain label) (fuel : Nat) :
    readDocument toml (fuel + 3) (tablesBefore major minor prBinaries)
        ("image_label = ".toList ++ '"' :: (label ++ ['"', '\n'])) =
      .ok (documentOf (tablesWith major minor prBinaries label)) := by
  rw [read_label, string_plain plain ['\n'] (by simp)]
  rfl

end Label

theorem readToml_ok_iff {toml : Grammar} {file : List Char} {data : Table} :
    readToml toml file = .ok data ↔ loads toml (universalNewlines file) = .ok data := by
  unfold readToml
  cases loads toml (universalNewlines file) <;> simp [Except.mapError]

theorem mapError_str {n : Nat} {text : List Char} (ok : (str n).mapError PyError.value = .ok text) :
    text = Nat.toDigits 10 n ∧ (Nat.toDigits 10 n).length ≤ maxStrDigits := by
  unfold str at ok
  split at ok
  · next short => exact ⟨(Except.ok.inj ok).symm, short⟩
  · cases ok

theorem renderTrainToml_ok {major minor : Int} {prBinaries : Bool} {imageLabel : String} {new : List Char}
    (rendered : renderTrainToml major minor prBinaries imageLabel = .ok new) :
    (0 ≤ major ∧ (Nat.toDigits 10 major.toNat).length ≤ maxStrDigits) ∧
    (0 ≤ minor ∧ (Nat.toDigits 10 minor.toNat).length ≤ maxStrDigits) ∧
    new = beforeLabel (Nat.toDigits 10 major.toNat) (Nat.toDigits 10 minor.toNat)
      (if prBinaries then "true" else "false").toList ++ (imageLabel.toList ++ ['"', '\n']) := by
  unfold renderTrainToml at rendered
  by_cases negative : major < 0 ∨ minor < 0
  · rw [if_pos negative] at rendered
    cases rendered
  · rw [if_neg negative] at rendered
    obtain ⟨majorText, first, rest⟩ := except_bind_eq_ok.mp rendered
    obtain ⟨minorText, second, written⟩ := except_bind_eq_ok.mp rest
    obtain ⟨rfl, majorFits⟩ := mapError_str first
    obtain ⟨rfl, minorFits⟩ := mapError_str second
    have given : 0 ≤ major ∧ 0 ≤ minor := by omega
    exact ⟨⟨given.1, majorFits⟩, ⟨given.2, minorFits⟩, (Except.ok.inj written).symm⟩

theorem loadTrain_ok {toml : Grammar} {py : Builtins} {path : String} {file : List Char} {data : Table}
    {major minor : Nat} (read : readToml toml file = .ok data)
    (train : dictGet data "train" (.table []) = .table [("major", .integer major), ("minor", .integer minor)]) :
    loadTrain toml py path file = .ok ⟨major, minor⟩ := by
  have positive : ¬ ((major : Int) < 0 ∨ (minor : Int) < 0) := by omega
  have first : py.item (.table [("major", .integer major), ("minor", .integer minor)]) "major" =
      .ok (.integer major) := rfl
  have second : py.item (.table [("major", .integer major), ("minor", .integer minor)]) "minor" =
      .ok (.integer minor) := rfl
  unfold loadTrain
  simp only [read, train, first, second, Builtins.int, bind, Except.bind, pure, Except.pure, if_neg positive,
    Int.toNat_natCast]

/-- What `set_train` writes where it succeeds. -/
theorem setTrain_ok {toml : Grammar} {py : Builtins} {old new : List Char} {existing : Table} {major minor : Int}
    (valid : readToml toml old = .ok existing) (set : setTrain toml py (some old) major minor = .ok new) :
    (0 ≤ major ∧ (Nat.toDigits 10 major.toNat).length ≤ maxStrDigits) ∧
    (0 ≤ minor ∧ (Nat.toDigits 10 minor.toNat).length ≤ maxStrDigits) ∧
    new = beforeLabel (Nat.toDigits 10 major.toNat) (Nat.toDigits 10 minor.toNat)
      (if py.bool (prBinaries existing) then "true" else "false").toList ++
        ((py.str (imageLabel existing)).toList ++ ['"', '\n']) := by
  unfold setTrain at set
  simp only [valid, bind, Except.bind] at set
  unfold prBinaries imageLabel rcSetting
  split at set
  · exact renderTrainToml_ok set
  · cases set

/-- After `set_train` has succeeded on a valid file, the train and the settings read back exactly where the old
    settings are a boolean and plain text. -/
theorem set_train_keeps_iff (toml : Grammar) (py : Builtins) (path : String) {old new : List Char}
    {existing : Table} {major minor : Int} (valid : readToml toml old = .ok existing)
    (set : setTrain toml py (some old) major minor = .ok new) :
    ((∃ train, loadTrain toml py path new = .ok train ∧ (train.major : Int) = major ∧
        (train.minor : Int) = minor) ∧
      ∃ data, readToml toml new = .ok data ∧ prBinaries data = prBinaries existing ∧
        imageLabel data = imageLabel existing) ↔
    (∃ b, prBinaries existing = .boolean b) ∧ ∃ s, imageLabel existing = .string s ∧ Plain s.toList := by
  obtain ⟨⟨majorGiven, majorFits⟩, ⟨minorGiven, minorFits⟩, written⟩ := setTrain_ok valid set
  obtain ⟨fuel, document⟩ := loads_document toml majorFits minorFits (py.bool (prBinaries existing))
    (py.str (imageLabel existing)).toList
  rw [← written] at document
  have reads : Plain (py.str (imageLabel existing)).toList → readToml toml new = .ok (documentOf
      (tablesWith major.toNat minor.toNat (py.bool (prBinaries existing))
        (py.str (imageLabel existing)).toList)) := by
    intro plain
    rw [readToml, document, universalNewlines_plain plain, read_plain_label toml _ _ _ plain]
    rfl
  constructor
  · intro kept
    obtain ⟨-, data, read, sameBinaries, sameLabel⟩ := kept
    have loaded := readToml_ok_iff.mp read
    rw [document] at loaded
    obtain ⟨v, after, token, label⟩ := imageLabel_read toml _ _ _ loaded
    rw [sameLabel] at label
    have same : (py.str (imageLabel existing)).toList = v := by
      rw [label, py.str_string, String.toList_ofList]
    rw [← same] at token label
    have plain := string_self token
    have whole := reads plain
    rw [read] at whole
    refine ⟨⟨py.bool (prBinaries existing), ?_⟩, _, label, ?_⟩
    · rw [← sameBinaries, Except.ok.inj whole]
      rfl
    · rw [String.toList_ofList]
      exact plain
  · intro condition
    obtain ⟨⟨b, binaries⟩, s, label, plain⟩ := condition
    have read : readToml toml new = .ok (documentOf
        (tablesWith major.toNat minor.toNat (py.bool (prBinaries existing)) s.toList)) := by
      rw [label, py.str_string] at reads
      exact reads plain
    refine ⟨⟨⟨major.toNat, minor.toNat⟩, ?_, ?_, ?_⟩, _, read, ?_, ?_⟩
    · exact loadTrain_ok read rfl
    · exact Int.toNat_of_nonneg majorGiven
    · exact Int.toNat_of_nonneg minorGiven
    · rw [binaries]
      rfl
    · rw [label, tablesWith, String.ofList_toList]
      rfl

/-- The conversions for files whose settings are booleans, integers and strings. -/
def Builtins.plain : Builtins where
  boolOther _ := true
  intOther text := .error (.type text)
  intString text := .error (.value ("invalid literal for int() with base 10: '" ++ text ++ "'"))
  str
    | .string s => s
    | .boolean b => if b then "True" else "False"
    | .integer n => toString n
    | _ => ""
  typeOther := id
  str_string _ := rfl

/-- The file of another train, with settings of its own. -/
theorem set_train_keeps_of_label :
    ∃ new, setTrain .modelled .plain (some "[rc]\npr_binaries = false\nimage_label = \"nightly\"\n".toList) 2 7 =
        .ok new ∧
      (∃ train, loadTrain .modelled .plain "version.toml" new = .ok train ∧ (train.major : Int) = 2 ∧
        (train.minor : Int) = 7) ∧
      ∃ data, readToml .modelled new = .ok data ∧ prBinaries data = .boolean false ∧
        imageLabel data = .string "nightly" := by
  have valid : readToml .modelled "[rc]\npr_binaries = false\nimage_label = \"nightly\"\n".toList =
      .ok [("rc", .table [("pr_binaries", .boolean false), ("image_label", .string "nightly")])] := rfl
  have set : setTrain .modelled .plain
      (some "[rc]\npr_binaries = false\nimage_label = \"nightly\"\n".toList) 2 7 =
        .ok (beforeLabel (Nat.toDigits 10 2) (Nat.toDigits 10 7) "false".toList ++
          ("nightly".toList ++ ['"', '\n'])) := rfl
  have plain : Toml.Plain "nightly".toList := by
    unfold Toml.Plain
    exact List.all_iff_forall_prop.mp (by decide)
  exact ⟨_, set, (set_train_keeps_iff .modelled .plain "version.toml" valid set).mpr
    ⟨⟨false, rfl⟩, "nightly", rfl, plain⟩⟩

/-- A label with a quote is written as it stands: only what stands in front of the quote can come back. -/
theorem quote_lost :
    ∃ old existing, imageLabel existing = .string "a\"b" ∧ ∀ toml py, readToml toml old = .ok existing ∧
      ∃ new, setTrain toml py (some old) 1 0 = .ok new ∧
        ∀ data, readToml toml new = .ok data → imageLabel data ≠ imageLabel existing := by
  refine ⟨"[rc]\nimage_label = \"a\\\"b\"\n".toList, [("rc", .table [("image_label", .string "a\"b")])], rfl, ?_⟩
  intro toml py
  have written : setTrain toml py (some "[rc]\nimage_label = \"a\\\"b\"\n".toList) 1 0 =
      .ok (beforeLabel (Nat.toDigits 10 1) (Nat.toDigits 10 0) "true".toList ++
        ("a\"b".toList ++ ['"', '\n'])) := by
    have rendered : setTrain toml py (some "[rc]\nimage_label = \"a\\\"b\"\n".toList) 1 0 =
        renderTrainToml 1 0 true (py.str (.string "a\"b")) := rfl
    rw [rendered, py.str_string]
    rfl
  refine ⟨rfl, _, written, ?_⟩
  intro data read
  have majorFits : (Nat.toDigits 10 1).length ≤ maxStrDigits := by decide
  have minorFits : (Nat.toDigits 10 0).length ≤ maxStrDigits := by decide
  obtain ⟨fuel, document⟩ := loads_document toml majorFits minorFits true "a\"b".toList
  rw [readToml_ok_iff] at read
  obtain ⟨v, after, token, label⟩ := imageLabel_read toml _ _ _ (document.symm.trans read)
  have denoted : string ('"' :: universalNewlines ("a\"b".toList ++ ['"', '\n'])) =
      some (['a'], ['b', '"', '\n']) := rfl
  rw [denoted] at token
  cases token
  rw [label]
  intro same
  exact absurd (Value.string.inj same) (by decide)

end Strom.Tools
