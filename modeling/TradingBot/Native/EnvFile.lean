import TradingBot.Native.Config

/-!
# Writing settings back to the `.env` file

`SaveToEnv` (`internal/config`) rewrites the `.env` file line by line: a line whose key is
among the updates becomes `key=value`, every other line is copied, and the keys no line
carried are appended. A missing file is created by `createNewEnvFile` instead, with a
two-line comment header.

A Go `string` is its list of runes here. The file is `Option (List Char)`, `none` when it
does not exist. The lines are those `bufio.Scanner` yields with `ScanLines`; a line of
64 KiB or more stops the scanner with `bufio.ErrTooLong`, and `SaveToEnv` then fails
before writing. `os.Open` may fail for another reason than a missing file, which the
`EnvIO` reply says; `os.WriteFile` is taken to succeed.
-/

namespace TradingBot

/-- The `updates` map: its entries in the order `range` visits them (any order can occur),
    each key once. -/
structure EnvUpdates where
  entries : List (List Char × List Char)
  nodup : (entries.map Prod.fst).Nodup

/-- What the file system answers `os.Open` with, when the file exists. -/
structure EnvIO where
  openError : Option String

/-! ## Lines -/

/-- `bufio.dropCR`: drop one carriage return at the end of a line. -/
def dropCR (line : List Char) : List Char :=
  if line.getLast? = some '\r' then line.dropLast else line

/-- The lines `bufio.Scanner` yields with `ScanLines`: the text split at each `\n`, one `\r`
    before it dropped, and no empty line after a final `\n`. -/
def scanLines (content : List Char) : List (List Char) :=
  let pieces := content.splitOn '\n'
  (if pieces.getLast? = some [] then pieces.dropLast else pieces).map dropCR

/-- The `bufio.ErrTooLong` condition: some line, with its `\r`, fills the scanner's 64 KiB
    buffer before its `\n` or the end of the file. -/
def scanTooLong (content : List Char) : Bool :=
  (content.splitOn '\n').any (fun piece => 65536 ≤ (piece.map Char.utf8Size).sum)

/-- `strings.SplitN(s, "=", 2)` when it yields two parts: the text before the first `=` and
    the text after it. -/
def splitAtEq : List Char → Option (List Char × List Char)
  | [] => none
  | c :: cs => if c = '=' then some ([], cs) else (splitAtEq cs).map (fun kv => (c :: kv.1, kv.2))

/-- `fmt.Sprintf("%s=%s", key, value)`. -/
def entryLine (kv : List Char × List Char) : List Char := kv.1 ++ '=' :: kv.2

/-- The text of lines each written with `"\n"` after it. -/
def joinLines (lines : List (List Char)) : List Char := lines.flatMap (· ++ ['\n'])

/-! ## `SaveToEnv` and `createNewEnvFile` -/

/-- The body of `SaveToEnv`'s scan loop: the line it writes (before its `"\n"`) and the key
    it marks in `updatedKeys`, if any. Blank lines, `#` lines and lines without `=` are
    copied; so is a `key=value` line whose trimmed key is not among the updates. -/
def rewriteLine (updates : EnvUpdates) (line : List Char) : List Char × Option (List Char) :=
  let trimmed := trimSpace line
  if trimmed = [] ∨ trimmed.head? = some '#' then (line, none)
  else match splitAtEq trimmed with
    | none => (line, none)
    | some (part₀, _) =>
      let key := trimSpace part₀
      match updates.entries.lookup key with
      | some newValue => (entryLine (key, newValue), some key)
      | none => (line, none)

/-- One pass of `SaveToEnv`'s scan loop: the buffer gets the line and its `"\n"`, and
    `updatedKeys` the key the line updated. -/
def saveStep (updates : EnvUpdates) (acc : List Char × List (List Char)) (line : List Char) :
    List Char × List (List Char) :=
  (acc.1 ++ (rewriteLine updates line).1 ++ ['\n'], acc.2 ++ (rewriteLine updates line).2.toList)

/-- The buffer `SaveToEnv` writes over an existing file: the scan loop over its lines, then
    the updates whose key no line carried, in the map's order. -/
def saveBuffer (updates : EnvUpdates) (content : List Char) : List Char :=
  let (buffer, updatedKeys) := (scanLines content).foldl (saveStep updates) ([], [])
  buffer ++ joinLines ((updates.entries.filter (fun kv => kv.1 ∉ updatedKeys)).map entryLine)

/-- The buffer `createNewEnvFile` writes: the comment header and a blank line, then every
    entry in the map's order. -/
def createNewEnvFile (data : EnvUpdates) : List Char :=
  "# Auto-generated .env file\n".toList ++ "# 自动生成的 .env 文件\n\n".toList ++
    joinLines (data.entries.map entryLine)

/-- `SaveToEnv`: the file afterwards and the error returned. A missing file is created; a
    failed open or scan returns its error and writes nothing. -/
def saveToEnv (io : EnvIO) (file : Option (List Char)) (updates : EnvUpdates) :
    Option (List Char) × Option String :=
  match file with
  | none => (some (createNewEnvFile updates), none)
  | some content =>
    match io.openError with
    | some err => (file, some ("failed to open .env file: " ++ err))
    | none =>
      if scanTooLong content then
        (file, some "failed to read .env file: bufio.Scanner: token too long")
      else (some (saveBuffer updates content), none)

/-! ## Reading a file back -/

end TradingBot
