import ExternalSort.Binary64.Reading
import ExternalSort.CommandLine.UsageError
import ExternalSort.Merge.Policy
import ExternalSort.Numeral

/-!
# Options with their values

An assignment is an option together with the value that was read for it. Each
option has values of one type, except for the number of records: a sweep takes a
list of numbers there, all other commands take one (`Level.takesLists`).
-/

namespace ExternalSort.CommandLine

/-- An option and its value. -/
inductive Assignment where
  | property (pair : String)
  | sortMb (megabytes : UInt64)
  | spillPercent (share : Binary64)
  | factor (segments : UInt64)
  | partitions (count : UInt32)
  | policy (policy : Merge.Policy)
  | records (count : UInt64)
  /-- Several numbers of records. -/
  | recordCounts (counts : List UInt64)
  | segments (count : UInt64)
  | spills (count : UInt64)
  | keyBytes (length : Int64)
  | textKeyChars (length : Int64)
  | valueBytes (length : Int64)
  deriving DecidableEq, Repr

/-- Reads a number of partitions. It is read as a signed number and then checked,
so zero may have a minus sign. -/
def readPartitions (text : String) : Except NumeralError UInt32 := do
  let n := (← Numeral.readInt64 text).toInt
  if n < 0 then throw .tooSmall
  else if 2 ^ 32 ≤ n then throw .tooLarge
  else return UInt32.ofNat n.toNat

/-- Reads the value of an option. -/
def readValue {ε α : Type} (option : OptionName) (read : String → Except ε α) (text : String) :
    Except UsageError α :=
  (read text).mapError fun _ => .badValue option text

namespace Assignment

/-- The option of an assignment. -/
def option : Assignment → OptionName
  | property _ => .property
  | sortMb _ => .sortMb
  | spillPercent _ => .spillPercent
  | factor _ => .factor
  | partitions _ => .partitions
  | policy _ => .policy
  | records _ | recordCounts _ => .records
  | segments _ => .segments
  | spills _ => .spills
  | keyBytes _ => .keyBytes
  | textKeyChars _ => .textKeyChars
  | valueBytes _ => .valueBytes

/-- Reads the number of records. A list has commas between its numbers. -/
def readRecords (level : Level) (text : String) : Except UsageError Assignment :=
  if level.takesLists then
    recordCounts <$> (text.splitOn ",").mapM (readValue .records Numeral.readWord64)
  else records <$> readValue .records Numeral.readWord64 text

/-- Reads an option and its value. -/
def read (level : Level) (option : OptionName) (text : String) : Except UsageError Assignment :=
  match option with
  | .property => .ok (property text)
  | .sortMb => sortMb <$> readValue option Numeral.readWord64 text
  | .spillPercent => spillPercent <$> readValue option Binary64.read text
  | .factor => factor <$> readValue option Numeral.readWord64 text
  | .partitions => partitions <$> readValue option readPartitions text
  | .policy => policy <$> readValue option Merge.Policy.read text
  | .records => readRecords level text
  | .segments => segments <$> readValue option Numeral.readWord64 text
  | .spills => spills <$> readValue option Numeral.readWord64 text
  | .keyBytes => keyBytes <$> readValue option Numeral.readInt64 text
  | .textKeyChars => textKeyChars <$> readValue option Numeral.readInt64 text
  | .valueBytes => valueBytes <$> readValue option Numeral.readInt64 text

end Assignment

end ExternalSort.CommandLine
