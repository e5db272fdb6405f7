import DBPilot.Lib.Wire

/-!
# Statements of SQL metrics

`safeReadOnlyStatement` of `internal/telemetry/custommetrics.go`, with the texts as bytes.
A nested loop of the source is a mode of the scan here.
-/

namespace DBPilot.Telemetry

open Wire (Bytes)

def ascii (s : String) : Bytes := s.toList.map fun c => UInt8.ofNat c.toNat

def newline : UInt8 := 10
def doubleQuote : UInt8 := 34
def singleQuote : UInt8 := 39
def star : UInt8 := 42
def dash : UInt8 := 45
def slash : UInt8 := 47
def semicolon : UInt8 := 59

def isQuote (c : UInt8) : Bool := c = singleQuote || c = doubleQuote

def isLetter (c : UInt8) : Bool := 97 ≤ c && c ≤ 122 || 65 ≤ c && c ≤ 90

def lineOpener (a b : UInt8) : Bool := a = dash && b = dash

def blockOpener (a b : UInt8) : Bool := a = slash && b = star

inductive Mode where
  | code
  | quote (delimiter : UInt8)
  | line
  | block
  deriving DecidableEq

/-- Nothing for a quote or a comment that is not closed. -/
def stripFrom : Mode → Bytes → Option Bytes
  | .code, [] => some []
  | .code, c :: rest =>
    if isQuote c then (stripFrom (.quote c) rest).map (c :: ·)
    else match rest with
      | [] => some [c]
      | d :: after =>
        if lineOpener c d then stripFrom .line after
        else if blockOpener c d then stripFrom .block after
        else (stripFrom .code (d :: after)).map (c :: ·)
  | .quote _, [] => none
  | .quote q, c :: rest =>
    if c = q then match rest with
      | [] => some [c]
      | d :: after =>
        if d = q then (stripFrom (.quote q) after).map fun out => c :: d :: out
        else (stripFrom .code (d :: after)).map (c :: ·)
    else (stripFrom (.quote q) rest).map (c :: ·)
  | .line, [] => some []
  | .line, c :: rest => if c = newline then (stripFrom .code rest).map (c :: ·) else stripFrom .line rest
  | .block, [] => none
  | .block, c :: rest =>
    match rest with
    | [] => none
    | d :: after => if c = star && d = slash then stripFrom .code after else stripFrom .block (d :: after)

def stripSQLComments (raw : Bytes) : Option Bytes := stripFrom .code raw

def upper (text : Bytes) : Bytes := text.map fun c => if 97 ≤ c && c ≤ 122 then c - 32 else c

/-- The tokens from here on, inside a quote or not, within a run of letters or not. -/
def tokensFrom : Option UInt8 → Bool → Bytes → List Bytes
  | _, _, [] => []
  | none, inWord, c :: rest =>
    if isQuote c then tokensFrom (some c) false rest
    else (if isLetter c && !inWord then [upper (c :: rest.takeWhile isLetter)] else []) ++
      tokensFrom none (isLetter c) rest
  | some q, _, c :: rest =>
    if c = q then match rest with
      | [] => []
      | d :: after => if d = q then tokensFrom (some q) false after else tokensFrom none false (d :: after)
    else tokensFrom (some q) false rest

def sqlTokens (statement : Bytes) : List Bytes := tokensFrom none false statement

/-! ## White space -/

def asciiSpace (c : UInt8) : Bool := 9 ≤ c && c ≤ 13 || c = 32

/-- The encodings of the white space of `unicode.IsSpace` in two and in three bytes. -/
def space2 (a b : UInt8) : Bool := a = 0xC2 && (b = 0x85 || b = 0xA0)

def space3 (a b c : UInt8) : Bool :=
  a = 0xE1 && b = 0x9A && c = 0x80 ||
    a = 0xE2 && b = 0x80 && (0x80 ≤ c && c ≤ 0x8A || c = 0xA8 || c = 0xA9 || c = 0xAF) ||
    a = 0xE2 && b = 0x81 && c = 0x9F || a = 0xE3 && b = 0x80 && c = 0x80

/-- Drops what is white space, as long as there is any. -/
def dropSpace (two : UInt8 → UInt8 → Bool) (three : UInt8 → UInt8 → UInt8 → Bool) : Bytes → Bytes
  | [] => []
  | a :: rest =>
    if asciiSpace a then dropSpace two three rest
    else match rest with
      | [] => [a]
      | b :: rest =>
        if two a b then dropSpace two three rest
        else match rest with
          | [] => [a, b]
          | c :: rest => if three a b c then dropSpace two three rest else a :: b :: c :: rest

/-- `strings.TrimSpace`. -/
def trimSpace (text : Bytes) : Bytes :=
  (dropSpace (fun a b => space2 b a) (fun a b c => space3 c b a) (dropSpace space2 space3 text).reverse).reverse

/-- Without the white space around it and one semicolon at its end. -/
def bare (text : Bytes) : Bytes :=
  let statement := trimSpace text
  if statement.getLast? = some semicolon then trimSpace statement.dropLast else statement

def forbidden : List Bytes :=
  ["INSERT", "UPDATE", "DELETE", "MERGE", "CREATE", "ALTER", "DROP", "TRUNCATE", "GRANT", "REVOKE", "CALL", "EXEC",
    "EXECUTE", "DO", "SET", "BEGIN", "COMMIT", "ROLLBACK", "VACUUM", "ANALYZE", "LOCK", "INTO", "OUTFILE",
    "DUMPFILE"].map ascii

def readers : List Bytes := ["SELECT", "WITH"].map ascii

/-- Nothing is `ErrUnsafeSQLMetric`. -/
def safeReadOnlyStatement (raw : Bytes) : Option Bytes :=
  match stripSQLComments raw with
  | none => none
  | some out =>
    let statement := bare out
    if statement.isEmpty || statement.contains semicolon then none
    else match sqlTokens statement with
      | [] => none
      | first :: others =>
        if first ∉ readers then none
        else if (first :: others).any fun token => token ∈ forbidden then none
        else some statement

/-! ## Lexing by the rules of SQL -/

inductive Lexeme where
  | word (text : Bytes)
  | number (text : Bytes)
  | quoted
  | comment
  | symbol (byte : UInt8)
  deriving DecidableEq

def isDigit (c : UInt8) : Bool := 48 ≤ c && c ≤ 57

/-- The bytes of identifiers: letters, digits, underscore, dollar and everything beyond ASCII. -/
def isIdentifier (c : UInt8) : Bool := isLetter c || isDigit c || c = 95 || c = 36 || 128 ≤ c

/-- What begins at a byte that is neither in a quote nor in a comment. -/
def lexeme (inWord : Bool) (c : UInt8) (rest : Bytes) : List Lexeme :=
  if isIdentifier c then
    if inWord then []
    else if isDigit c then [.number (c :: rest.takeWhile isIdentifier)]
    else [.word (c :: rest.takeWhile isIdentifier)]
  else if asciiSpace c then [] else [.symbol c]

def lexFrom : Mode → Bool → Bytes → List Lexeme
  | _, _, [] => []
  | .code, inWord, c :: rest =>
    if isQuote c then .quoted :: lexFrom (.quote c) false rest
    else match rest with
      | [] => lexeme inWord c []
      | d :: after =>
        if lineOpener c d then .comment :: lexFrom .line false after
        else if blockOpener c d then .comment :: lexFrom .block false after
        else lexeme inWord c (d :: after) ++ lexFrom .code (isIdentifier c) (d :: after)
  | .quote q, _, c :: rest =>
    if c = q then match rest with
      | [] => []
      | d :: after => if d = q then lexFrom (.quote q) false after else lexFrom .code false (d :: after)
    else lexFrom (.quote q) false rest
  | .line, _, c :: rest => if c = newline then lexFrom .code false rest else lexFrom .line false rest
  | .block, _, c :: rest =>
    match rest with
    | [] => []
    | d :: after => if c = star && d = slash then lexFrom .code false after else lexFrom .block false (d :: after)

def lex (statement : Bytes) : List Lexeme := lexFrom .code false statement

/-- One statement that only reads, as far as its words tell. -/
structure ReadOnly (statement : Bytes) : Prop where
  uncommented : .comment ∉ lex statement
  reads : ∃ text, (lex statement).head? = some (.word text) ∧ upper text ∈ readers
  single : .symbol semicolon ∉ lex statement
  permitted : ∀ text, .word text ∈ lex statement → upper text ∉ forbidden

end DBPilot.Telemetry
