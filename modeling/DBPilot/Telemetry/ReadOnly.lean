import DBPilot.Telemetry.Statement

/-!
# Where the guard of SQL metrics holds

The guard deletes comments and then reads the words of what is left. Where a deleted
comment stood between the halves of a comment opener, the statement that it returns has
a comment again. Otherwise the lexer of SQL sees the same words as the guard.
-/

namespace DBPilot.Telemetry

open Wire (Bytes)

def opens (a b : UInt8) : Bool := lineOpener a b || blockOpener a b

/-- The kept byte before `c` and `c` open a comment. -/
def opensAfter (last : Option UInt8) (c : UInt8) : Bool := last.any fun a => opens a c

/-- Comments are deleted between the halves of a comment opener. -/
def joinsFrom : Mode → Option UInt8 → Bool → Bytes → Bool
  | _, _, _, [] => false
  | .code, last, gap, c :: rest =>
    if isQuote c then joinsFrom (.quote c) none false rest
    else match rest with
      | [] => gap && opensAfter last c
      | d :: after =>
        if lineOpener c d then joinsFrom .line last true after
        else if blockOpener c d then joinsFrom .block last true after
        else gap && opensAfter last c || joinsFrom .code (some c) false (d :: after)
  | .quote q, last, gap, c :: rest =>
    if c = q then match rest with
      | [] => false
      | d :: after =>
        if d = q then joinsFrom (.quote q) last gap after else joinsFrom .code none false (d :: after)
    else joinsFrom (.quote q) last gap rest
  | .line, last, gap, c :: rest =>
    if c = newline then joinsFrom .code (some c) false rest else joinsFrom .line last gap rest
  | .block, last, gap, c :: rest =>
    match rest with
    | [] => false
    | d :: after => if c = star && d = slash then joinsFrom .code last true after else joinsFrom .block last gap (d :: after)

def joins (raw : Bytes) : Bool := joinsFrom .code none false raw

/-- The text starts with a word of letters only. -/
def startsWithLetters : Bytes → Bool
  | [] => false
  | c :: rest => isLetter c && (rest.takeWhile isIdentifier).all isLetter

/-- What remains without comments starts with a word of letters only. -/
def startsPlain (raw : Bytes) : Bool := (stripSQLComments raw).any fun out => startsWithLetters (bare out)

/-! ## Openers outside quotes -/

/-- A comment is opened outside quotes. -/
def commented : Option UInt8 → Bytes → Bool
  | _, [] => false
  | none, c :: rest => if isQuote c then commented (some c) rest else rest.head?.any (opens c) || commented none rest
  | some q, c :: rest =>
    if c = q then match rest with
      | [] => false
      | d :: after => if d = q then commented (some q) after else commented none (d :: after)
    else commented (some q) rest

variable {c a : UInt8}

section openers

lemma opens_quote (quote : isQuote c = true) : opens a c = false := by
  unfold isQuote at quote
  rcases Bool.or_eq_true_iff.mp quote with same | same <;>
    · rw [of_decide_eq_true same]
      simp [opens, lineOpener, blockOpener, singleQuote, doubleQuote, dash, star]

lemma opensAfter_newline (last : Option UInt8) : opensAfter last newline = false := by
  cases last with
  | none => rfl
  | some a => simp [opensAfter, opens, lineOpener, blockOpener, newline, dash, star]

/-- A quote that ends and begins again is a doubled one. -/
lemma commented_close {q : UInt8} (quote : isQuote q = true) (out : Bytes) :
    commented (some q) (q :: out) = commented none out := by
  cases out with
  | nil => simp [commented]
  | cons d =>
    by_cases same : d = q
    · subst same
      simp [commented, quote]
    · simp [commented, same]

/-- What the scan writes from here on, after the byte `last`. -/
def commentedAfter (last : Option UInt8) (out : Bytes) : Bool :=
  out.head?.any (opensAfter last) || commented none out

lemma commentedAfter_quote (quote : isQuote c = true) (last : Option UInt8) (out : Bytes) :
    commentedAfter last (c :: out) = commented (some c) out := by
  have inert : opensAfter last c = false := by
    cases last with
    | none => rfl
    | some a => exact opens_quote quote
  simp [commentedAfter, commented, inert, quote]

lemma commentedAfter_cons (plain : isQuote c = false) (last : Option UInt8) (out : Bytes) :
    commentedAfter last (c :: out) = (opensAfter last c || commentedAfter (some c) out) := by
  have same : opens c = opensAfter (some c) := rfl
  simp [commentedAfter, commented, plain, same]

lemma commentedAfter_none (out : Bytes) : commentedAfter none out = commented none out := by
  cases out with
  | nil => rfl
  | cons => simp [commentedAfter, opensAfter]

/-- The mode of the scan, and what it means for the text that is written. -/
def written : Mode → Option UInt8 → Bytes → Bool
  | .quote q, _, out => commented (some q) out
  | _, last, out => commentedAfter last out

/-- Comments are joined where the text that is written has an opener. -/
theorem joinsFrom_eq {mode : Mode} {raw out : Bytes} (last : Option UInt8) (gap : Bool)
    (stripped : stripFrom mode raw = some out) (quote : ∀ q, mode = .quote q → isQuote q = true)
    (adjacent : mode = .code → gap = false → ∀ d, raw.head? = some d → opensAfter last d = false) :
    joinsFrom mode last gap raw = written mode last out := by
  fun_induction stripFrom mode raw generalizing out last gap with
  | case1 | case12 =>
    cases stripped
    rfl
  | case2 c rest opened ih =>
    obtain ⟨inner, same, rfl⟩ := Option.map_eq_some_iff.mp stripped
    have inside := ih none false same (by rintro _ ⟨⟩; exact opened) nofun
    cases rest <;> simpa [joinsFrom, opened, written, commentedAfter_quote opened] using inside
  | case3 c plain =>
    cases stripped
    have plain := Bool.eq_false_iff.mpr plain
    cases gap with
    | true => simp [joinsFrom, plain, written, commentedAfter, commented]
    | false =>
      have inert := adjacent rfl rfl c rfl
      simp [joinsFrom, plain, written, commentedAfter, commented, inert]
  | case4 c plain d after line ih =>
    have rest : _ = commentedAfter last out := ih last true stripped nofun nofun
    simpa [joinsFrom, plain, line, written] using rest
  | case5 c plain d after line block ih =>
    have rest : _ = commentedAfter last out := ih last true stripped nofun nofun
    simpa [joinsFrom, plain, line, block, written] using rest
  | case6 c plain d after line block ih =>
    obtain ⟨inner, same, rfl⟩ := Option.map_eq_some_iff.mp stripped
    have plain := Bool.eq_false_iff.mpr plain
    have closed : opens c d = false := by simp [opens, line, block]
    have rest : _ = commentedAfter (some c) inner :=
      ih (some c) false same nofun (by rintro _ _ _ ⟨⟩; exact closed)
    have here : (gap && opensAfter last c) = opensAfter last c := by
      cases gap with
      | true => rfl
      | false => rw [adjacent rfl rfl c rfl, Bool.false_and]
    simp [joinsFrom, plain, line, block, written, commentedAfter_cons plain, rest, here]
  | case7 q | case15 | case16 c => cases stripped
  | case8 c =>
    cases stripped
    simp [joinsFrom, written, commented]
  | case9 d after ih =>
    obtain ⟨inner, same, rfl⟩ := Option.map_eq_some_iff.mp stripped
    have rest := ih last gap same quote nofun
    simpa [joinsFrom, written, commented] using rest
  | case10 c d after apart ih =>
    obtain ⟨inner, same, rfl⟩ := Option.map_eq_some_iff.mp stripped
    have rest : _ = commentedAfter none inner := ih none false same nofun (fun _ _ _ _ => rfl)
    rw [commentedAfter_none] at rest
    simp [joinsFrom, apart, written, commented_close (quote c rfl), rest]
  | case11 q c rest inside ih =>
    obtain ⟨inner, same, rfl⟩ := Option.map_eq_some_iff.mp stripped
    have kept : _ = commented (some q) inner := ih last gap same quote nofun
    cases rest with
    | nil => cases same
    | cons => cases inner <;> simpa [joinsFrom, inside, written, commented] using kept
  | case13 rest ih =>
    obtain ⟨inner, same, rfl⟩ := Option.map_eq_some_iff.mp stripped
    have rest : _ = commentedAfter (some newline) inner :=
      ih (some newline) false same nofun fun _ _ d _ => by
        simp [opensAfter, opens, lineOpener, blockOpener, newline, dash, slash]
    have plain : isQuote newline = false := rfl
    simp [joinsFrom, written, commentedAfter_cons plain, opensAfter_newline, rest]
  | case14 c rest inside ih =>
    have rest := ih last gap stripped nofun nofun
    simpa [joinsFrom, inside] using rest
  | case17 c d after closes ih =>
    have rest : _ = commentedAfter last out := ih last true stripped nofun nofun
    simpa [joinsFrom, closes, written] using rest
  | case18 c d after inside ih =>
    have rest := ih last gap stripped nofun nofun
    simpa [joinsFrom, inside] using rest

theorem joins_eq {raw out : Bytes} (stripped : stripSQLComments raw = some out) : joins raw = commented none out := by
  have same : _ = commentedAfter none out := joinsFrom_eq none false stripped nofun (fun _ _ _ _ => rfl)
  rw [commentedAfter_none] at same
  exact same

end openers

/-! ## Trimming -/

variable {text rest : Bytes} {b : UInt8}

section trimming

/-- The bytes that matter for quotes and comments. -/
def special : List UInt8 := [doubleQuote, singleQuote, star, dash, slash]

def Inert (text : Bytes) : Prop := ∀ c ∈ text, c ∉ special

lemma inert_nil : Inert [] := nofun

lemma Inert.cons {c : UInt8} {text : Bytes} (rest : Inert text) (first : c ∉ special) : Inert (c :: text) :=
  List.forall_mem_cons.mpr ⟨first, rest⟩

lemma Inert.append {front back : Bytes} (first : Inert front) (second : Inert back) : Inert (front ++ back) :=
  List.forall_mem_append.mpr ⟨first, second⟩

lemma Inert.reverse (inert : Inert text) : Inert text.reverse :=
  fun c member => inert c (List.mem_reverse.mp member)

lemma not_special {p : UInt8 → Bool} (apart : special.all (fun c => !p c) = true) (holds : p c = true) :
    c ∉ special := by
  intro member
  simpa [holds] using List.all_eq_true.mp apart c member

/-- White space that is not ASCII has bytes beyond ASCII only. -/
lemma not_special_of_high (high : 128 ≤ c) : c ∉ special :=
  not_special (p := fun c => 128 ≤ c) (by decide) (decide_eq_true high)

lemma space2_inert (space : space2 a b = true) : Inert [a, b] := by
  simp only [space2, Bool.and_eq_true, Bool.or_eq_true, decide_eq_true_eq] at space
  obtain ⟨rfl, second⟩ := space
  have high : 128 ≤ b := by rcases second with rfl | rfl <;> decide
  exact (inert_nil.cons (not_special_of_high high)).cons (by decide)

lemma space3_inert (space : space3 a b c = true) : Inert [a, b, c] := by
  have high : 128 ≤ a ∧ 128 ≤ b ∧ 128 ≤ c := by
    simp only [space3, Bool.and_eq_true, Bool.or_eq_true, decide_eq_true_eq] at space
    rcases space with ((⟨⟨rfl, rfl⟩, rfl⟩ | ⟨⟨rfl, rfl⟩, third⟩) | ⟨⟨rfl, rfl⟩, rfl⟩) | ⟨⟨rfl, rfl⟩, rfl⟩
    · decide
    · refine ⟨by decide, by decide, ?_⟩
      rcases third with ((range | rfl) | rfl) | rfl
      · exact range.1
      · decide
      · decide
      · decide
    · decide
    · decide
  exact ((inert_nil.cons (not_special_of_high high.2.2)).cons (not_special_of_high high.2.1)).cons
    (not_special_of_high high.1)

variable {three : UInt8 → UInt8 → UInt8 → Bool}

lemma dropSpace_front {two : UInt8 → UInt8 → Bool}
    (inert2 : ∀ {a b}, two a b = true → Inert [a, b]) (inert3 : ∀ {a b c}, three a b c = true → Inert [a, b, c])
    (text : Bytes) : ∃ front, Inert front ∧ text = front ++ dropSpace two three text := by
  fun_induction dropSpace two three text with
  | case1 | case3 | case5 | case7 => exact ⟨[], inert_nil, rfl⟩
  | case2 a rest space ih =>
    obtain ⟨front, inert, same⟩ := ih
    exact ⟨a :: front, inert.cons (not_special (by decide) space), congrArg (a :: ·) same⟩
  | case4 a plain b rest space ih =>
    obtain ⟨front, inert, same⟩ := ih
    exact ⟨[a, b] ++ front, (inert2 space).append inert, congrArg ([a, b] ++ ·) same⟩
  | case6 a plain b other c rest space ih =>
    obtain ⟨front, inert, same⟩ := ih
    exact ⟨[a, b, c] ++ front, (inert3 space).append inert, congrArg ([a, b, c] ++ ·) same⟩

/-- What is left does not begin with ASCII white space. -/
lemma dropSpace_head {two : UInt8 → UInt8 → Bool}
    (left : dropSpace two three text = c :: rest) : asciiSpace c = false := by
  fun_induction dropSpace two three text with
  | case1 => cases left
  | case2 a rest space ih | case4 a plain b rest space ih | case6 a plain b other c rest space ih =>
    exact ih left
  | case3 | case5 | case7 =>
    cases left
    exact Bool.eq_false_iff.mpr ‹_›

lemma trimSpace_back (text : Bytes) : ∃ back, Inert back ∧ dropSpace space2 space3 text = trimSpace text ++ back := by
  have inert2 : ∀ {a b}, space2 b a = true → Inert [a, b] := fun space => (space2_inert space).reverse
  have inert3 : ∀ {a b c}, space3 c b a = true → Inert [a, b, c] := fun space => (space3_inert space).reverse
  obtain ⟨front, inert, same⟩ := dropSpace_front inert2 inert3 (dropSpace space2 space3 text).reverse
  refine ⟨front.reverse, inert.reverse, ?_⟩
  rw [trimSpace, ← List.reverse_append, ← same, List.reverse_reverse]

lemma trimSpace_around (text : Bytes) :
    ∃ front back, Inert front ∧ Inert back ∧ text = front ++ trimSpace text ++ back := by
  obtain ⟨front, inert, same⟩ := dropSpace_front space2_inert space3_inert text
  obtain ⟨back, inert', same'⟩ := trimSpace_back text
  refine ⟨front, back, inert, inert', ?_⟩
  rw [List.append_assoc, ← same', ← same]

lemma trimSpace_head (trimmed : trimSpace text = c :: rest) : asciiSpace c = false := by
  obtain ⟨back, _, same⟩ := trimSpace_back text
  rw [trimmed] at same
  exact dropSpace_head same

lemma bare_around (text : Bytes) : ∃ front back, Inert front ∧ Inert back ∧ text = front ++ bare text ++ back := by
  obtain ⟨front, back, inert, inert', same⟩ := trimSpace_around text
  unfold bare
  dsimp only
  split
  · rename_i last
    obtain ⟨start, ends⟩ := List.getLast?_eq_some_iff.mp last
    obtain ⟨front', back', inner, inner', same'⟩ := trimSpace_around (trimSpace text).dropLast
    refine ⟨front ++ front', back' ++ [semicolon] ++ back, inert.append inner, ?_, ?_⟩
    · exact (inner'.append (inert_nil.cons (by decide))).append inert'
    · have whole : trimSpace text = (trimSpace text).dropLast ++ [semicolon] := by
        rw [ends, List.dropLast_concat]
      calc text = front ++ ((trimSpace text).dropLast ++ [semicolon]) ++ back := by rw [← whole, ← same]
        _ = front ++ ((front' ++ trimSpace (trimSpace text).dropLast ++ back') ++ [semicolon]) ++ back := by rw [← same']
        _ = _ := by simp only [List.append_assoc]
  · exact ⟨front, back, inert, inert', same⟩

lemma bare_head (trimmed : bare text = c :: rest) : asciiSpace c = false := by
  unfold bare at trimmed
  dsimp only at trimmed
  split at trimmed
  · exact trimSpace_head trimmed
  · exact trimSpace_head trimmed

lemma isQuote_special (quote : isQuote c = true) : c ∈ special := by
  simp only [isQuote, Bool.or_eq_true, decide_eq_true_eq] at quote
  rcases quote with rfl | rfl <;> decide

lemma isQuote_inert (inert : c ∉ special) : isQuote c = false :=
  Bool.eq_false_iff.mpr fun quote => inert (isQuote_special quote)

lemma opens_special (opened : opens a b = true) : a ∈ special ∧ b ∈ special := by
  simp only [opens, lineOpener, blockOpener, Bool.or_eq_true, Bool.and_eq_true, decide_eq_true_eq] at opened
  rcases opened with ⟨rfl, rfl⟩ | ⟨rfl, rfl⟩ <;> decide

lemma opens_inert (inert : c ∉ special) (next : Option UInt8) : next.any (opens c) = false := by
  cases next with
  | none => rfl
  | some d => exact Bool.eq_false_iff.mpr fun opened => inert (opens_special opened).1

lemma commented_front {front : Bytes} (inert : Inert front) (text : Bytes) :
    commented none (front ++ text) = commented none text := by
  induction front with
  | nil => rfl
  | cons c front ih =>
    obtain ⟨here, rest⟩ := List.forall_mem_cons.mp inert
    rw [List.cons_append, commented, isQuote_inert here, opens_inert here, ih rest]
    rfl

lemma commented_inert {back : Bytes} (inert : Inert back) {state : Option UInt8}
    (quote : ∀ q, state = some q → isQuote q = true) : commented state back = false := by
  rcases state with _ | q
  · have same := commented_front inert []
    rwa [List.append_nil] at same
  induction back with
  | nil => rfl
  | cons c back ih =>
    obtain ⟨here, rest⟩ := List.forall_mem_cons.mp inert
    have apart : c ≠ q := by
      rintro rfl
      exact here (isQuote_special (quote c rfl))
    cases back with
    | nil => simp [commented, apart]
    | cons => simpa [commented, apart] using ih rest

lemma commented_back {back : Bytes} (inert : Inert back) {state : Option UInt8} (text : Bytes)
    (quote : ∀ q, state = some q → isQuote q = true) : commented state (text ++ back) = commented state text := by
  fun_induction commented state text with
  | case1 state => exact commented_inert inert quote
  | case2 c rest opened ih =>
    have inside := ih (by rintro _ ⟨⟩; exact opened)
    simpa [commented, opened] using inside
  | case3 c rest plain ih =>
    have later := ih nofun
    cases rest with
    | cons d => simpa [commented, plain] using congrArg (opens c d || ·) later
    | nil =>
      have closed : back.head?.any (opens c) = false := by
        cases back with
        | nil => rfl
        | cons d =>
          exact Bool.eq_false_iff.mpr fun opened => inert d List.mem_cons_self (opens_special opened).2
      simpa [commented, plain, closed] using later
  | case4 q =>
    rw [List.singleton_append, commented_close (quote q rfl)]
    exact @commented_inert back inert none nofun
  | case5 q after ih => simpa [commented] using ih quote
  | case6 q d after apart ih => simpa [commented, apart] using ih nofun
  | case7 q c rest inside ih =>
    have later := ih quote
    cases rest with
    | cons => simpa [commented, inside] using later
    | nil =>
      cases back with
      | nil => simp [commented, inside]
      | cons => simpa [commented, inside] using later

lemma commented_bare (text : Bytes) : commented none (bare text) = commented none text := by
  obtain ⟨front, back, inert, inert', same⟩ := bare_around text
  have around := (@commented_back back inert' none (front ++ bare text) nofun).trans (commented_front inert (bare text))
  rw [← same] at around
  exact around.symm

end trimming

/-! ## The words of the lexer -/

section words

def mode : Option UInt8 → Mode
  | none => .code
  | some q => .quote q

lemma isQuote_opens {d : UInt8} (opened : opens c d = true) : isQuote c = false := by
  simp only [opens, lineOpener, blockOpener, Bool.or_eq_true, Bool.and_eq_true, decide_eq_true_eq] at opened
  rcases opened with ⟨rfl, _⟩ | ⟨rfl, _⟩ <;> decide

lemma comment_notMem_lexeme (inWord : Bool) (c : UInt8) (rest : Bytes) : .comment ∉ lexeme inWord c rest := by
  unfold lexeme
  split_ifs <;> simp

/-- Outside an opener the lexer goes on byte by byte. -/
lemma lexFrom_code (plain : isQuote c = false) (closed : rest.head?.any (opens c) = false) (inWord : Bool) :
    lexFrom .code inWord (c :: rest) = lexeme inWord c rest ++ lexFrom .code (isIdentifier c) rest := by
  cases rest with
  | nil => simp [lexFrom, plain]
  | cons d =>
    have apart := Bool.or_eq_false_iff.mp (show (lineOpener c d || blockOpener c d) = false from closed)
    simp [lexFrom, plain, apart.1, apart.2]

lemma lexFrom_open (opened : rest.head?.any (opens c) = true) (inWord : Bool) :
    .comment ∈ lexFrom .code inWord (c :: rest) := by
  rcases rest with _ | ⟨d, after⟩
  · cases opened
  have opened : opens c d = true := opened
  have plain := isQuote_opens opened
  rcases Bool.or_eq_true_iff.mp opened with line | block
  · simp [lexFrom, plain, line]
  · by_cases line : lineOpener c d = true
    · simp [lexFrom, plain, line]
    · simp [lexFrom, plain, line, block]

lemma lexFrom_quote (opened : isQuote c = true) (inWord : Bool) (rest : Bytes) :
    lexFrom .code inWord (c :: rest) = .quoted :: lexFrom (.quote c) false rest := by
  cases rest <;> simp [lexFrom, opened]

lemma lexFrom_inside {q : UInt8} (inside : c ≠ q) (inWord : Bool) (rest : Bytes) :
    lexFrom (.quote q) inWord (c :: rest) = lexFrom (.quote q) false rest := by
  cases rest <;> simp [lexFrom, inside]

lemma tokensFrom_inside {q : UInt8} (inside : c ≠ q) (inLetters : Bool) (rest : Bytes) :
    tokensFrom (some q) inLetters (c :: rest) = tokensFrom (some q) false rest := by
  cases rest <;> simp [tokensFrom, inside]

theorem comment_mem_lexFrom (state : Option UInt8) (inWord : Bool) (text : Bytes) :
    .comment ∈ lexFrom (mode state) inWord text ↔ commented state text = true := by
  fun_induction commented state text generalizing inWord with
  | case1 state => simp [lexFrom]
  | case2 c rest opened ih => simpa [mode, lexFrom_quote opened] using ih false
  | case3 c rest plain ih =>
    have plain := Bool.eq_false_iff.mpr plain
    cases opened : rest.head?.any (opens c) with
    | true => simpa [mode] using lexFrom_open opened inWord
    | false =>
      simpa [mode, lexFrom_code plain opened, comment_notMem_lexeme] using ih (isIdentifier c)
  | case4 q => simp [mode, lexFrom]
  | case5 q after ih => simpa [mode, lexFrom] using ih false
  | case6 q d after apart ih => simpa [mode, lexFrom, apart] using ih false
  | case7 q c rest inside ih => simpa [mode, lexFrom_inside inside] using ih false

lemma symbol_mem_lexeme {inWord : Bool} (member : .symbol b ∈ lexeme inWord c rest) : b = c := by
  unfold lexeme at member
  split_ifs at member <;> simp_all

lemma symbol_mem_lexFrom {mode : Mode} {inWord : Bool}
    (member : .symbol b ∈ lexFrom mode inWord text) : b ∈ text := by
  fun_induction lexFrom mode inWord text with
  | case3 inWord c plain => exact List.mem_singleton.mpr (symbol_mem_lexeme member)
  | case6 inWord c plain d after line block ih =>
    rcases List.mem_append.mp member with here | later
    · exact symbol_mem_lexeme here ▸ List.mem_cons_self
    · exact List.mem_cons_of_mem c (ih later)
  | _ => simp_all

lemma isIdentifier_of_isLetter (letter : isLetter c = true) : isIdentifier c = true := by
  simp [isIdentifier, letter]

lemma not_isDigit_of_isLetter (letter : isLetter c = true) : isDigit c = false := by
  simp only [isLetter, Bool.or_eq_true, Bool.and_eq_true, decide_eq_true_eq] at letter
  apply Bool.eq_false_iff.mpr
  intro digit
  simp only [isDigit, Bool.and_eq_true, decide_eq_true_eq] at digit
  rcases letter with letter | letter
  · exact absurd (UInt8.le_trans letter.1 digit.2) (by decide)
  · exact absurd (UInt8.le_trans letter.1 digit.2) (by decide)

/-- A run of identifier bytes that are all letters is the run of letters. -/
lemma takeWhile_letters (letters : ∀ c ∈ text.takeWhile isIdentifier, isLetter c = true) :
    text.takeWhile isLetter = text.takeWhile isIdentifier := by
  induction text with
  | nil => rfl
  | cons c text ih =>
    rcases identifier : isIdentifier c with _ | _
    · have plain : isLetter c = false := Bool.eq_false_iff.mpr fun letter => by
        rw [isIdentifier_of_isLetter letter] at identifier
        cases identifier
      simp [identifier, plain]
    rw [List.takeWhile_cons_of_pos identifier] at letters ⊢
    obtain ⟨here, rest⟩ := List.forall_mem_cons.mp letters
    rw [List.takeWhile_cons_of_pos here, ih rest]

lemma word_mem_lexeme {inWord : Bool} (member : .word text ∈ lexeme inWord c rest) :
    inWord = false ∧ text = c :: rest.takeWhile isIdentifier := by
  unfold lexeme at member
  split_ifs at member <;> simp_all

/-- Words of letters are tokens of the guard. -/
theorem word_mem_tokensFrom {word : Bytes} {state : Option UInt8} (inWord inLetters : Bool)
    (uncommented : commented state text = false) (member : .word word ∈ lexFrom (mode state) inWord text)
    (letters : ∀ c ∈ word, isLetter c = true) (within : inLetters = true → inWord = true) :
    upper word ∈ tokensFrom state inLetters text := by
  fun_induction commented state text generalizing inWord inLetters with
  | case1 state => simp [lexFrom] at member
  | case2 c rest opened ih =>
    rw [mode, lexFrom_quote opened] at member
    have later := (List.mem_cons.mp member).resolve_left nofun
    rw [tokensFrom, if_pos opened]
    exact ih false false uncommented later nofun
  | case3 c rest plain ih =>
    have plain := Bool.eq_false_iff.mpr plain
    obtain ⟨closed, later⟩ := Bool.or_eq_false_iff.mp uncommented
    rw [mode, lexFrom_code plain closed] at member
    rw [tokensFrom, plain]
    refine List.mem_append.mpr ?_
    rcases List.mem_append.mp member with here | there
    · obtain ⟨outside, rfl⟩ := word_mem_lexeme here
      obtain ⟨first, others⟩ := List.forall_mem_cons.mp letters
      have fresh : inLetters = false := Bool.eq_false_iff.mpr fun inside => by
        rw [within inside] at outside
        cases outside
      left
      simp [first, fresh, takeWhile_letters others]
    · right
      exact ih (isIdentifier c) (isLetter c) later there isIdentifier_of_isLetter
  | case4 q => simp [mode, lexFrom] at member
  | case5 q after ih =>
    have later : .word word ∈ lexFrom (mode (some q)) false after := by simpa [mode, lexFrom] using member
    simpa [tokensFrom] using ih false false uncommented later nofun
  | case6 q d after apart ih =>
    have later : .word word ∈ lexFrom (mode none) false (d :: after) := by simpa [mode, lexFrom, apart] using member
    simpa [tokensFrom, apart] using ih false false uncommented later nofun
  | case7 q c rest inside ih =>
    rw [mode, lexFrom_inside inside] at member
    rw [tokensFrom_inside inside]
    exact ih false false uncommented member nofun

lemma letters_of_upper (letters : ∀ c ∈ upper text, isLetter c = true) : ∀ c ∈ text, isLetter c = true := by
  intro c member
  have raised := letters _ (List.mem_map_of_mem member)
  split at raised
  · rename_i lower
    simp [isLetter, lower]
  · exact raised

lemma keyword_letters : ∀ keyword ∈ forbidden ++ readers, ∀ c ∈ keyword, isLetter c = true := by
  have letters : (forbidden ++ readers).all (·.all isLetter) = true := by decide
  simpa only [List.all_eq_true] using letters

/-- Where the text starts with a word of letters, it is the guard's first token. -/
lemma head_of_letters (letter : isLetter c = true)
    (letters : ∀ d ∈ rest.takeWhile isIdentifier, isLetter d = true) :
    (lex (c :: rest)).head? = some (.word (c :: rest.takeWhile isIdentifier)) ∧
      (sqlTokens (c :: rest)).head? = some (upper (c :: rest.takeWhile isIdentifier)) := by
  have inert := not_special (by decide) letter
  have plain := isQuote_inert inert
  have closed := opens_inert inert rest.head?
  constructor
  · simp [lex, lexFrom_code plain closed, lexeme, isIdentifier_of_isLetter letter, not_isDigit_of_isLetter letter]
  · simp [sqlTokens, tokensFrom, plain, letter, takeWhile_letters letters]

/-- A first word of letters stands at the very start. -/
lemma letters_of_head {word : Bytes} (trimmed : ∀ c rest, text = c :: rest → asciiSpace c = false)
    (uncommented : commented none text = false) (head : (lex text).head? = some (.word word))
    (letters : ∀ c ∈ word, isLetter c = true) : startsWithLetters text = true := by
  rcases text with _ | ⟨c, rest⟩
  · cases head
  cases opened : isQuote c with
  | true =>
    rw [lex, lexFrom_quote opened] at head
    cases head
  | false =>
    rw [commented, opened] at uncommented
    obtain ⟨closed, _⟩ := Bool.or_eq_false_iff.mp uncommented
    have nonspace := trimmed c rest rfl
    rw [lex, lexFrom_code opened closed] at head
    rcases identifier : isIdentifier c with _ | _
    · simp [lexeme, identifier, nonspace] at head
    cases digit : isDigit c with
    | true => simp [lexeme, identifier, digit] at head
    | false =>
      have same : c :: rest.takeWhile isIdentifier = word := by simpa [lexeme, identifier, digit] using head
      rw [← same] at letters
      obtain ⟨first, others⟩ := List.forall_mem_cons.mp letters
      exact Bool.and_eq_true_iff.mpr ⟨first, List.all_eq_true.mpr others⟩

end words

/-! ## The guard -/

lemma safeReadOnlyStatement_eq_some {raw statement : Bytes} (accepted : safeReadOnlyStatement raw = some statement) :
    ∃ out, stripSQLComments raw = some out ∧ statement = bare out ∧ semicolon ∉ statement ∧
      (∃ first ∈ readers, (sqlTokens statement).head? = some first) ∧
      ∀ token ∈ sqlTokens statement, token ∉ forbidden := by
  unfold safeReadOnlyStatement at accepted
  split at accepted
  · cases accepted
  · rename_i out stripped
    dsimp only at accepted
    split at accepted
    · cases accepted
    rename_i plain
    split at accepted
    · cases accepted
    rename_i first others tokens
    split at accepted
    · cases accepted
    rename_i reads
    split at accepted
    · cases accepted
    rename_i allowed
    cases accepted
    refine ⟨out, stripped, rfl, ?_, ⟨first, not_not.mp reads, by rw [tokens]; rfl⟩, ?_⟩
    · simpa using (not_or.mp (mt Bool.or_eq_true_iff.mpr plain)).2
    · rw [tokens]
      intro token member bad
      exact allowed (List.any_eq_true.mpr ⟨token, member, decide_eq_true bad⟩)

/-- The statement that the guard returns only reads, exactly where no comment was deleted
between the halves of a comment opener and the text starts with a word of letters. -/
theorem guard_read_only_iff {raw statement : Bytes} (accepted : safeReadOnlyStatement raw = some statement) :
    ReadOnly statement ↔ joins raw = false ∧ startsPlain raw = true := by
  obtain ⟨out, stripped, rfl, single, ⟨first, reads, head⟩, allowed⟩ := safeReadOnlyStatement_eq_some accepted
  have joined : joins raw = commented none (bare out) := (joins_eq stripped).trans (commented_bare out).symm
  have starts : startsPlain raw = startsWithLetters (bare out) := by rw [startsPlain, stripped]; rfl
  rw [joined, starts]
  constructor
  · intro readOnly
    have uncommented : commented none (bare out) = false :=
      Bool.eq_false_iff.mpr fun opened => readOnly.uncommented ((comment_mem_lexFrom none false _).mpr opened)
    obtain ⟨word, here, keyword⟩ := readOnly.reads
    refine ⟨uncommented, letters_of_head (fun c rest same => bare_head same) uncommented here ?_⟩
    exact letters_of_upper (keyword_letters _ (List.mem_append_right _ keyword))
  · rintro ⟨uncommented, plain⟩
    refine ⟨?_, ?_, fun member => single (symbol_mem_lexFrom member), ?_⟩
    · intro comment
      rw [(comment_mem_lexFrom none false _).mp comment] at uncommented
      cases uncommented
    · rcases text : bare out with _ | ⟨c, rest⟩
      · rw [text] at plain
        cases plain
      rw [text] at plain head
      obtain ⟨letter, letters⟩ := Bool.and_eq_true_iff.mp plain
      obtain ⟨word, token⟩ := head_of_letters letter (List.all_eq_true.mp letters)
      refine ⟨_, word, ?_⟩
      rwa [← Option.some.inj (head.symm.trans token)]
    · intro word member bad
      have letters := letters_of_upper (keyword_letters _ (List.mem_append_left _ bad))
      exact allowed _ (word_mem_tokensFrom false false uncommented member letters nofun) bad

/-- A comment between two dashes leaves a comment opener. -/
theorem joined_dashes_comment :
    safeReadOnlyStatement (ascii "SELECT 1 -/**/- 2") = some (ascii "SELECT 1 -- 2") ∧
      ¬ ReadOnly (ascii "SELECT 1 -- 2") := by
  refine ⟨by decide +kernel, fun readOnly => readOnly.uncommented ?_⟩
  decide +kernel

theorem guard_read_only_iff_count :
    safeReadOnlyStatement (ascii "select count(*) from t -- all") = some (ascii "select count(*) from t") ∧
      ReadOnly (ascii "select count(*) from t") := by
  have accepted : safeReadOnlyStatement (ascii "select count(*) from t -- all") =
      some (ascii "select count(*) from t") := by decide +kernel
  exact ⟨accepted, (guard_read_only_iff accepted).mpr (by decide +kernel)⟩

end DBPilot.Telemetry
