import StorageBallast.Ballast.BallastManager
import StorageBallast.Foundations.PathPieces
import StorageBallast.Scanner.DeletionChecks

/-! Ballast files as bytes: their names in the pool directory, the header in front of the
data, what makes a file intact, and how one is written.
-/

namespace StorageBallast.PoolFiles

open Checks (bind_eq_ok)

def headerSize : Nat := 4096

def chunkSize : Nat := 4 * 1024 * 1024

def fsyncEveryBytes : Nat := 64 * 1024 * 1024

def namePrefix : String := "SBH_BALLAST_FILE_"

def paddedDigits (index : Nat) : List Char :=
  let digits := Nat.toDigits 10 index
  List.replicate (5 - digits.length) '0' ++ digits

def ballastFileName (index : Nat) : String :=
  String.ofList (namePrefix.toList ++ paddedDigits index ++ ".dat".toList)

/-- `str::parse::<u32>`: a plus sign may stand in front. -/
def parseU32 (text : List Char) : Option Nat :=
  let digits := match text with
    | '+' :: rest => rest
    | _ => text
  if digits ≠ [] ∧ digits.all Char.isDigit = true ∧ Nat.ofDigitChars 10 digits 0 < 2 ^ 32 then
    some (Nat.ofDigitChars 10 digits 0)
  else none

def ballastFileIndex (name : String) : Option Nat :=
  let around := namePrefix.toList.length + ".dat".toList.length
  if Texts.startsWith name namePrefix
      && (extension name).any (Texts.eqIgnoreAsciiCase · "dat")
      && decide (around < name.toList.length) then
    parseU32 ((name.toList.drop namePrefix.toList.length).take (name.toList.length - around))
  else none

/-- JSON metadata stored in the first 4096 bytes of each ballast file. -/
structure BallastHeader where
  magic : String
  fileIndex : Nat
  createdAt : String
  fileSize : Nat
  purpose : String
deriving DecidableEq, Repr

namespace BallastHeader

def new (createdAt : String) (index size : Nat) : BallastHeader where
  magic := "SBH_BALLAST_v1"
  fileIndex := index
  createdAt := createdAt
  fileSize := size
  purpose := "Storage ballast for emergency space recovery"

def validate (self : BallastHeader) : Bool := self.magic == "SBH_BALLAST_v1"

end BallastHeader

/-- JSON as the serializer writes and reads it; both may fail with a text. -/
structure HeaderCodec where
  toJson : BallastHeader → Except String String
  fromJson : String → Except String BallastHeader

/-- What is written is read back, and has no null character in it. -/
structure HeaderCodec.Lawful (codec : HeaderCodec) : Prop where
  reads_back : ∀ {header : BallastHeader} {text : String},
    codec.toJson header = .ok text → codec.fromJson text = .ok header
  no_null : ∀ {header : BallastHeader} {text : String},
    codec.toJson header = .ok text → (0 : UInt8) ∉ text.toByteArray.data.toList

structure RegularFile where
  bytes : List UInt8
  blocks : Nat
deriving DecidableEq, Repr

abbrev PoolDir := String → Option RegularFile

namespace PoolDir

def remove (self : PoolDir) (name : String) : PoolDir := Function.update self name none

def write (self : PoolDir) (name : String) (file : RegularFile) : PoolDir :=
  Function.update self name (some file)

end PoolDir

/-- The part of the configuration that a pool goes by. Validation bounds every file count
below 2^32.
-/
structure PoolConfig where
  ballastDir : PathBuf
  fileCount : Nat
  fileSizeBytes : Nat
  skipFallocate : Bool
  fileCount_lt : fileCount < 2 ^ 32

namespace PoolConfig

def toBallastConfig (self : PoolConfig) : BallastConfig := ⟨self.fileCount, self.fileSizeBytes⟩

def indices (self : PoolConfig) : List Nat := List.range' 1 self.fileCount

def filePath (self : PoolConfig) (index : Nat) : PathBuf :=
  self.ballastDir.join (ballastFileName index)

end PoolConfig

/-- `checked_mul` of a block count by 512. -/
def allocatedBytes (blocks : Nat) : Option Nat :=
  if blocks * 512 < 2 ^ 64 then some (blocks * 512) else none

/-- Why `verify_single_file` does not accept a file. -/
def verifySingleFile (codec : HeaderCodec) (config : PoolConfig) (file : RegularFile)
    (expectedIndex : Nat) : Except String Unit := do
  let size := config.fileSizeBytes
  if file.bytes.length ≠ size then
    throw ("size mismatch: expected " ++ toString size ++ " got " ++ toString file.bytes.length)
  let headerBuf := file.bytes.take headerSize
  if headerBuf.length < headerSize then
    throw "read header: failed to fill whole buffer"
  -- the JSON is null-padded
  let json := headerBuf.takeWhile (· ≠ 0)
  match String.fromUTF8? ⟨json.toArray⟩ with
  | none => throw "header not UTF-8"
  | some text =>
      match codec.fromJson text with
      | .error e => throw ("header parse: " ++ e)
      | .ok header =>
          if !header.validate then
            throw ("bad magic: " ++ header.magic)
          if header.fileIndex ≠ expectedIndex then
            throw ("index mismatch: expected " ++ toString expectedIndex ++ " got "
              ++ toString header.fileIndex)
          if header.fileSize ≠ size then
            throw ("header size mismatch: " ++ toString header.fileSize ++ " vs "
              ++ toString size)
          match allocatedBytes file.blocks with
          | none => throw "allocated block count overflow"
          | some allocated =>
              if allocated < size then
                throw ("allocated bytes mismatch: expected at least " ++ toString size
                  ++ " got " ++ toString allocated)

/-- An error of the operating system: whether its kind is `StorageFull`, the raw code it came
with, and its text.
-/
structure OsError where
  storageFull : Bool
  rawOsError : Option Nat
  text : String
deriving DecidableEq, Repr

inductive PalError where
  | notImplemented (osName methodName : String) (bead : Option String)
  | methodFailed (osName methodName details : String)
deriving DecidableEq, Repr

def PalError.text : PalError → String
  | notImplemented osName methodName bead =>
      "PAL method '" ++ methodName ++ "' is not yet implemented on " ++ osName
        ++ (match bead with
          | none => ""
          | some bead => ". See bead " ++ bead ++ " for tracking")
  | methodFailed osName methodName details =>
      "PAL method '" ++ methodName ++ "' failed on " ++ osName ++ ": " ++ details

inductive CreateError where
  | invalidConfig (details : String)
  | pal (source : PalError)
  | serialization (context details : String)
  | io (path : PathBuf) (source : OsError)
  | runtime (details : String)
deriving DecidableEq, Repr

def CreateError.toSbhError : CreateError → SbhError
  | invalidConfig details => .invalidConfig details
  | pal source => .pal source.text
  | serialization context details => .serialization context details
  | io path source => .io path ⟨.other, source.text⟩
  | runtime details => .runtime details

def messageMentionsStorageFull (message : String) : Bool :=
  ["no space left on device", "enospc", "storage full", "disk full", "not enough space"].any
    (Texts.contains (Texts.toAsciiLowercase message))

/-- `ENOSPC` is 28. -/
def ioErrorIsStorageFull (error : OsError) : Bool :=
  error.storageFull || error.rawOsError == some 28

def isStorageExhaustedError : CreateError → Bool
  | .io _ source => ioErrorIsStorageFull source
  | .pal (.methodFailed _ methodName details) =>
      methodName == "preallocate_file" && messageMentionsStorageFull details
  | .runtime details => messageMentionsStorageFull details
  | _ => false

structure CreationAnswers where
  createdAt : String
  osName : String
  /-- Opening, `fallocate` and `sync_all`, and then the count of blocks. -/
  reserve : Except CreateError Nat
  /-- Opening the reserved file, `set_len`, writing the header and `sync_all`. -/
  writeHeader : Except OsError Unit
  /-- Opening the truncated file and writing the header. -/
  openTruncated : Except OsError Unit
  randomByte : Nat → UInt8
  /-- Writing the chunk at an offset of the data. -/
  writeChunk : Nat → Except OsError Unit
  /-- `sync_all` while so much data is written, and at the end. -/
  syncChunk : Nat → Except OsError Unit
  syncAll : Except OsError Unit
  /-- The blocks behind the file that is written in full and synced. -/
  blocks : Nat

def verifyPreallocatedBlocks (osName : String) (path : PathBuf) (size blocks : Nat)
    : Except CreateError Unit :=
  match allocatedBytes blocks with
  | none => .error (.pal (.methodFailed osName "preallocate_file"
      ("allocated block count overflowed for " ++ path.text)))
  | some allocated =>
      if allocated < size then
        .error (.pal (.methodFailed osName "preallocate_file"
          (path.text ++ " has " ++ toString allocated
            ++ " allocated bytes after preallocation; expected at least " ++ toString size)))
      else .ok ()

def preallocateFile (answers : CreationAnswers) (path : PathBuf) (size : Nat)
    : Except CreateError Nat := do
  let blocks ← answers.reserve
  verifyPreallocatedBlocks answers.osName path size blocks
  return blocks

def ballastHeaderBuffer (codec : HeaderCodec) (createdAt : String) (index size : Nat)
    : Except CreateError (List UInt8) :=
  match codec.toJson (.new createdAt index size) with
  | .error e => .error (.serialization "serde_json" e)
  | .ok text =>
      let json := text.toByteArray.data.toList
      if headerSize < json.length then
        .error (.runtime ("ballast header JSON (" ++ toString json.length
          ++ " bytes) exceeds HEADER_SIZE (" ++ toString headerSize ++ ")"))
      else .ok (json ++ List.replicate (headerSize - json.length) 0)

def syncWhenDue (answers : CreationAnswers) (written sinceFsync : Nat) : Except OsError Nat :=
  if fsyncEveryBytes ≤ sinceFsync then (answers.syncChunk written).map fun _ => 0
  else .ok sinceFsync

def writeRandomData (answers : CreationAnswers) (dataSize written sinceFsync : Nat)
    : Except OsError (List UInt8) :=
  if written < dataSize then do
    let toWrite := min (dataSize - written) chunkSize
    answers.writeChunk written
    let chunk := (List.range' written toWrite).map answers.randomByte
    let sinceFsync ← syncWhenDue answers (written + toWrite) (sinceFsync + toWrite)
    let rest ← writeRandomData answers dataSize (written + toWrite) sinceFsync
    return chunk ++ rest
  else return []
termination_by dataSize - written
decreasing_by
  have : 0 < chunkSize := by decide
  omega

/-- `map_err` into an error at the path. -/
def ioAt (path : PathBuf) {α : Type} : Except OsError α → Except CreateError α
  | .error source => .error (.io path source)
  | .ok value => .ok value

def writeRandomFile (answers : CreationAnswers) (path : PathBuf) (size : Nat)
    (headerBuf : List UInt8) : Except CreateError RegularFile := do
  let dataSize := size - headerSize
  ioAt path answers.openTruncated
  let data ← ioAt path (writeRandomData answers dataSize 0 0)
  ioAt path answers.syncAll
  return ⟨headerBuf ++ data, answers.blocks⟩

def writeBallastFileInner (codec : HeaderCodec) (config : PoolConfig)
    (answers : CreationAnswers) (index : Nat) : Except CreateError RegularFile := do
  let path := config.filePath index
  let size := config.fileSizeBytes
  let headerBuf ← ballastHeaderBuffer codec answers.createdAt index size
  if config.skipFallocate then
    writeRandomFile answers path size headerBuf
  else
    match preallocateFile answers path size with
    | .ok blocks => do
        ioAt path answers.writeHeader
        return ⟨headerBuf ++ List.replicate (size - headerSize) 0, blocks⟩
    | .error e =>
        if isStorageExhaustedError e then .error e
        else writeRandomFile answers path size headerBuf

def createBallastFile (codec : HeaderCodec) (config : PoolConfig) (answers : CreationAnswers)
    (index : Nat) : Except CreateError RegularFile :=
  if config.fileSizeBytes < headerSize then
    .error (.invalidConfig ("file_size_bytes (" ++ toString config.fileSizeBytes
      ++ ") must be >= HEADER_SIZE (" ++ toString headerSize ++ ")"))
  else writeBallastFileInner codec config answers index

variable {index : Nat}

theorem paddedDigits_isDigit {c : Char} (member : c ∈ paddedDigits index)
    : c.isDigit = true := by
  rcases List.mem_append.mp member with zero | digit
  · rw [(List.mem_replicate.mp zero).2]
    decide
  · exact Nat.isDigit_of_mem_toDigits (by decide) (by decide) digit

theorem ofDigitChars_paddedDigits (index : Nat)
    : Nat.ofDigitChars 10 (paddedDigits index) 0 = index := by
  rw [paddedDigits, Nat.ofDigitChars_append, Nat.ofDigitChars_replicate_zero, Nat.mul_zero,
    Nat.ofDigitChars_ten_toDigits]

theorem paddedDigits_ne_nil (index : Nat) : paddedDigits index ≠ [] := by
  simp [paddedDigits]

theorem parseU32_paddedDigits (small : index < 2 ^ 32)
    : parseU32 (paddedDigits index) = some index := by
  have digits : (paddedDigits index).all Char.isDigit = true :=
    List.all_eq_true.mpr fun _ member => paddedDigits_isDigit member
  -- a digit is no plus sign
  have plain : (match paddedDigits index with
      | '+' :: rest => rest
      | _ => paddedDigits index) = paddedDigits index := by
    split
    next rest starts =>
      have plus : ('+' : Char).isDigit = true :=
        paddedDigits_isDigit (starts ▸ List.mem_cons_self)
      exact absurd plus (by decide)
    next => rfl
  unfold parseU32
  rw [plain, if_pos ⟨paddedDigits_ne_nil index, digits, by
    rwa [ofDigitChars_paddedDigits]⟩, ofDigitChars_paddedDigits]

theorem extension_ballastFileName (index : Nat)
    : extension (ballastFileName index) = some "dat" := by
  have reversed : (ballastFileName index).toList.reverse
      = 't' :: 'a' :: 'd' :: '.' :: (namePrefix.toList ++ paddedDigits index).reverse := by
    simp [ballastFileName]
  have cut : Texts.splitOnce '.' (ballastFileName index).toList.reverse
      = some (['t', 'a', 'd'], (namePrefix.toList ++ paddedDigits index).reverse) := by
    rw [reversed]
    simp [Texts.splitOnce]
  have named : ballastFileName index ≠ ".." := by
    intro same
    have lengths := congrArg (fun text : String => text.toList.length) same
    simp [ballastFileName, namePrefix] at lengths
  unfold extension
  rw [cut]
  simp [named, paddedDigits_ne_nil]

theorem ballastFileIndex_ballastFileName (small : index < 2 ^ 32)
    : ballastFileIndex (ballastFileName index) = some index := by
  have spelled : (ballastFileName index).toList
      = namePrefix.toList ++ (paddedDigits index ++ ".dat".toList) := by
    simp [ballastFileName]
  have starts : Texts.startsWith (ballastFileName index) namePrefix = true :=
    Texts.startsWith_iff.mpr ⟨_, spelled.symm⟩
  have long : namePrefix.toList.length + ".dat".toList.length
      < (ballastFileName index).toList.length := by
    have := List.length_pos_of_ne_nil (paddedDigits_ne_nil index)
    rw [spelled, List.length_append, List.length_append]
    omega
  have middle : ((ballastFileName index).toList.drop namePrefix.toList.length).take
      ((ballastFileName index).toList.length
        - (namePrefix.toList.length + ".dat".toList.length)) = paddedDigits index := by
    rw [spelled, List.drop_left, List.length_append, List.length_append]
    convert List.take_left using 2
    omega
  unfold ballastFileIndex
  have dat : Texts.eqIgnoreAsciiCase "dat" "dat" = true := by decide
  simp only [starts, extension_ballastFileName, Option.any_some, dat, decide_eq_true long,
    Bool.and_self, if_true, middle, parseU32_paddedDigits small]

theorem ballastFileName_injective {left right : Nat} (smallLeft : left < 2 ^ 32)
    (smallRight : right < 2 ^ 32) (same : ballastFileName left = ballastFileName right)
    : left = right := by
  have read := congrArg ballastFileIndex same
  rw [ballastFileIndex_ballastFileName smallLeft,
    ballastFileIndex_ballastFileName smallRight] at read
  exact Option.some.inj read

/-- A buffer is the text of the new header, with zeros behind it up to the header's size. -/
theorem ballastHeaderBuffer_eq_ok {codec : HeaderCodec} {createdAt : String}
    {index size : Nat} {buffer : List UInt8}
    (made : ballastHeaderBuffer codec createdAt index size = .ok buffer)
    : ∃ text zeros, codec.toJson (.new createdAt index size) = .ok text
      ∧ buffer = text.toByteArray.data.toList ++ List.replicate zeros 0
      ∧ buffer.length = headerSize := by
  unfold ballastHeaderBuffer at made
  cases written : codec.toJson (.new createdAt index size) with
  | error e => simp [written] at made
  | ok text =>
      simp only [written] at made
      split at made
      next => cases made
      next fits =>
        obtain rfl := Except.ok.inj made
        refine ⟨text, _, rfl, rfl, ?_⟩
        rw [List.length_append, List.length_replicate]
        omega

theorem takeWhile_before_zeros {json : List UInt8} (noNull : (0 : UInt8) ∉ json)
    (zeros : Nat) : (json ++ List.replicate zeros 0).takeWhile (· ≠ 0) = json := by
  induction json with
  | nil => cases zeros <;> simp [List.replicate_succ]
  | cons byte rest ih =>
      obtain ⟨nonzero, restNoNull⟩ := not_or.mp (List.mem_cons.not.mp noNull)
      rw [List.cons_append, List.takeWhile_cons_of_pos (by simpa using Ne.symm nonzero),
        ih restNoNull]

theorem fromUTF8_toByteArray (text : String)
    : String.fromUTF8? ⟨text.toByteArray.data.toList.toArray⟩ = some text := by
  rw [Array.toArray_toList]
  unfold String.fromUTF8?
  rw [dif_pos text.isValidUTF8]
  rfl

/-- A file with a new header in front, of the configured size and with blocks behind all of
it, is intact.
-/
theorem verifySingleFile_written {codec : HeaderCodec} (lawful : codec.Lawful)
    {config : PoolConfig} {createdAt : String} {buffer data : List UInt8} {blocks allocated : Nat}
    (made : ballastHeaderBuffer codec createdAt index config.fileSizeBytes = .ok buffer)
    (sized : (buffer ++ data).length = config.fileSizeBytes)
    (counted : allocatedBytes blocks = some allocated) (backed : config.fileSizeBytes ≤ allocated)
    : verifySingleFile codec config ⟨buffer ++ data, blocks⟩ index = .ok () := by
  obtain ⟨text, zeros, written, padded, full⟩ := ballastHeaderBuffer_eq_ok made
  have front : (buffer ++ data).take headerSize = buffer := List.take_left' full
  have json : buffer.takeWhile (· ≠ 0) = text.toByteArray.data.toList := by
    rw [padded, takeWhile_before_zeros (lawful.no_null written)]
  have read := lawful.reads_back written
  unfold verifySingleFile
  simp only [sized, ne_eq, not_true, if_false, front, full, Nat.lt_irrefl, json,
    fromUTF8_toByteArray, read, counted, Nat.not_lt.mpr backed, BallastHeader.validate,
    BallastHeader.new, beq_self_eq_true, Bool.not_true, Bool.false_eq_true]
  rfl

variable {answers : CreationAnswers}

/-- Random data is as long as was asked for, by induction on what is left to write. -/
theorem writeRandomData_length {dataSize written sinceFsync : Nat} {data : List UInt8}
    (made : writeRandomData answers dataSize written sinceFsync = .ok data)
    : data.length = dataSize - written := by
  induction written, sinceFsync using writeRandomData.induct dataSize generalizing data with
  | case1 written sinceFsync more toWrite =>
      rename_i ih
      unfold writeRandomData at made
      simp only [more, if_true] at made
      obtain ⟨_, _, synced⟩ := bind_eq_ok.mp made
      obtain ⟨since, _, continued⟩ := bind_eq_ok.mp synced
      obtain ⟨rest, later, joined⟩ := bind_eq_ok.mp continued
      obtain rfl := Except.ok.inj joined
      have shorter : rest.length = dataSize - (written + min (dataSize - written) chunkSize) :=
        ih since later
      rw [List.length_append, List.length_map, List.length_range', shorter]
      omega
  | case2 written sinceFsync done =>
      unfold writeRandomData at made
      rw [if_neg done] at made
      obtain rfl := Except.ok.inj made
      rw [List.length_nil]
      omega

variable {path : PathBuf}

theorem ioAt_eq_ok {α : Type} {answer : Except OsError α} {value : α}
    : ioAt path answer = .ok value ↔ answer = .ok value := by
  cases answer <;> simp [ioAt]

def CreationAnswers.Backed (answers : CreationAnswers) (size : Nat) : Prop :=
  ∃ allocated, allocatedBytes answers.blocks = some allocated ∧ size ≤ allocated

theorem verifyPreallocatedBlocks_eq_ok {osName : String}
    {size blocks : Nat} (passed : verifyPreallocatedBlocks osName path size blocks = .ok ())
    : ∃ allocated, allocatedBytes blocks = some allocated ∧ size ≤ allocated := by
  unfold verifyPreallocatedBlocks at passed
  cases counted : allocatedBytes blocks with
  | none => simp [counted] at passed
  | some allocated =>
      simp only [counted] at passed
      split at passed
      next => cases passed
      next enough => exact ⟨allocated, rfl, Nat.not_lt.mp enough⟩

theorem preallocateFile_eq_ok
    {size blocks : Nat} (reserved : preallocateFile answers path size = .ok blocks)
    : ∃ allocated, allocatedBytes blocks = some allocated ∧ size ≤ allocated := by
  obtain ⟨counted, _, checked⟩ := bind_eq_ok.mp reserved
  obtain ⟨_, passed, same⟩ := bind_eq_ok.mp checked
  obtain rfl := Except.ok.inj same
  exact verifyPreallocatedBlocks_eq_ok passed

/-- A file written with random data is the buffer, data of the missing length, and the
blocks of a file written in full.
-/
theorem writeRandomFile_eq_ok {size : Nat} {buffer : List UInt8} {file : RegularFile}
    (made : writeRandomFile answers path size buffer = .ok file)
    : ∃ data, file = ⟨buffer ++ data, answers.blocks⟩
      ∧ data.length = size - headerSize := by
  obtain ⟨_, _, opened⟩ := bind_eq_ok.mp made
  obtain ⟨data, written, filled⟩ := bind_eq_ok.mp opened
  obtain ⟨_, _, synced⟩ := bind_eq_ok.mp filled
  have long := writeRandomData_length (ioAt_eq_ok.mp written)
  rw [Nat.sub_zero] at long
  exact ⟨data, (Except.ok.inj synced).symm, long⟩

theorem verifySingleFile_created {codec : HeaderCodec} (lawful : codec.Lawful)
    {config : PoolConfig} {file : RegularFile} (backed : answers.Backed config.fileSizeBytes)
    (created : createBallastFile codec config answers index = .ok file)
    : verifySingleFile codec config file index = .ok () := by
  unfold createBallastFile at created
  split at created
  next => cases created
  next large =>
    obtain ⟨buffer, buffered, filled⟩ := bind_eq_ok.mp created
    obtain ⟨_, _, _, _, full⟩ := ballastHeaderBuffer_eq_ok buffered
    have whole {data : List UInt8} (rest : data.length = config.fileSizeBytes - headerSize)
        : (buffer ++ data).length = config.fileSizeBytes := by
      rw [List.length_append, full, rest]
      omega
    have random (made : writeRandomFile answers (config.filePath index) config.fileSizeBytes
        buffer = .ok file) : verifySingleFile codec config file index = .ok () := by
      obtain ⟨data, rfl, rest⟩ := writeRandomFile_eq_ok made
      obtain ⟨allocated, counted, enough⟩ := backed
      exact verifySingleFile_written lawful buffered (whole rest) counted enough
    split at filled
    next => exact random filled
    next =>
      split at filled
      next blocks reserved =>
        obtain ⟨_, _, same⟩ := bind_eq_ok.mp filled
        obtain rfl := Except.ok.inj same
        obtain ⟨allocated, counted, enough⟩ := preallocateFile_eq_ok reserved
        exact verifySingleFile_written lawful buffered (whole List.length_replicate) counted
          enough
      next =>
        split at filled
        next => cases filled
        next => exact random filled

end StorageBallast.PoolFiles
