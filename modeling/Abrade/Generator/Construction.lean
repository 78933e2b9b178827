import Abrade.Generator.Template

/-!
# What the constructor accepts

The constructor loop is followed from any position of the input: the rest of
the input either is a last literal, or starts with a literal and a complete
form, or has a fault that throws.  `UriGenerator.new_eq_ok_iff` sums it up: an
input is accepted exactly when it splits into literals and readable bodies, and
the generator is then the one its forms describe.
-/

namespace Abrade

namespace Pattern

theorem readTokens_of_noColon {body : Text} (noColon : ':' ∉ body) :
    readTokens body = (.implicit, body, []) := by
  have collects (first : Text) (rest : Text) (absent : ':' ∉ rest) :
      rest.foldl pushElement (.implicit, first, []) = (.implicit, first ++ rest, []) := by
    induction rest generalizing first with
    | nil => simp
    | cons element rest ih =>
        simp only [List.mem_cons, not_or] at absent
        have different : (element == ':') = false := by
          simpa using Ne.symm absent.1
        simp [pushElement, different, ih (first ++ [element]) absent.2]
  simpa [readTokens] using collects [] body noColon

theorem readTokens_of_colon {before after : Text} (noColon : ':' ∉ before) :
    readTokens (before ++ ':' :: after) = (.explicit, before, after.filter (· != ':')) := by
  have collects (first second rest : Text) :
      rest.foldl pushElement (.explicit, first, second) =
        (.explicit, first, second ++ rest.filter (· != ':')) := by
    induction rest generalizing second with
    | nil => simp
    | cons element rest ih =>
        by_cases colon : element = ':'
        · subst element
          simpa [pushElement] using ih second
        · have different : (element == ':') = false := by simpa using colon
          simp [pushElement, different, colon, ih]
  have start := readTokens_of_noColon noColon
  unfold readTokens at start ⊢
  rw [List.foldl_append, start]
  simpa [pushElement] using collects before [] after

end Pattern

namespace Form

def implicitRange (leadZero : Bool) (symbols : Text) : ImplicitRange :=
  { domains := symbols.map domain, digits := symbols.map fun _ => 0, leadingZeros := leadZero }

/-- The suffix ranges a telescoping range is built from. -/
def suffixRanges (leadZero : Bool) (symbols : Text) : List ImplicitRange :=
  (List.range' 1 symbols.length).map fun length => implicitRange leadZero (suffix symbols length)

/-- The freshly built range of a form that stands at `position` among the ranges. -/
def range (leadZero telescoping : Bool) (position : ℕ) : Form → Range
  | explicit first last => .explicit { start := first, stop := last, current := first }
  | implicit symbols =>
      if telescoping then .telescoping { ranges := suffixRanges leadZero symbols, index := 0 }
      else .implicit (implicitRange leadZero symbols)
  | continuation => .continuation { target := position - 1 }

def ranges (leadZero telescoping : Bool) : ℕ → List Form → List Range
  | _, [] => []
  | position, form :: forms =>
      form.range leadZero telescoping position ::
        ranges leadZero telescoping (position + 1) forms

theorem length_ranges (leadZero telescoping : Bool) (position : ℕ) (forms : List Form) :
    (ranges leadZero telescoping position forms).length = forms.length := by
  induction forms generalizing position with
  | nil => rfl
  | cons form forms ih => rw [ranges, List.length_cons, List.length_cons, ih]

end Form

theorem domain_of_getDomain {symbol : Char} {values : Text} (found : getDomain symbol = .ok values) :
    Form.domain symbol = values := by
  simp [Form.domain, found]

theorem ImplicitRange.new_eq_ok_iff {symbols : Text} {leadZero : Bool} {range : ImplicitRange} :
    ImplicitRange.new symbols leadZero = .ok range ↔
      (∀ symbol ∈ symbols, ∃ domain, getDomain symbol = .ok domain) ∧
        range = Form.implicitRange leadZero symbols := by
  have computed : (∀ symbol ∈ symbols, ∃ domain, getDomain symbol = .ok domain) ↔
      symbols.mapM getDomain = .ok (symbols.map Form.domain) := by
    rw [Except.mapM_eq_ok_iff, List.forall₂_map_right_iff, List.forall₂_same]
    constructor
    · intro known symbol symbolMem
      rcases known symbol symbolMem with ⟨domain, found⟩
      rw [found, domain_of_getDomain found]
    · intro found symbol symbolMem
      exact ⟨_, found symbol symbolMem⟩
  rw [computed]
  unfold ImplicitRange.new
  rw [Except.bind_eq_ok_iff]
  constructor
  · rintro ⟨domains, found, built⟩
    have same : domains = symbols.map Form.domain := by
      have matched := Except.mapM_eq_ok_iff.mp found
      clear found built computed
      induction matched with
      | nil => rfl
      | cons head _ ih => rw [List.map_cons, domain_of_getDomain head, ih]
    subst same
    refine ⟨found, ?_⟩
    cases built
    rw [Form.implicitRange, List.map_map]
    rfl
  · rintro ⟨found, rfl⟩
    refine ⟨_, found, ?_⟩
    rw [Form.implicitRange, List.map_map]
    rfl

theorem substr_suffix {symbols : Text} {offset : ℕ} (inside : offset < symbols.length) :
    substr symbols (symbols.length - offset - 1) (some (offset + 1)) =
      .ok (Form.suffix symbols (offset + 1)) := by
  have rest : (symbols.drop (symbols.length - (offset + 1))).length ≤ offset + 1 := by
    rw [List.length_drop]
    omega
  unfold substr Form.suffix
  rw [if_neg (by omega)]
  simp only [Nat.sub_sub, List.take_of_length_le rest]

theorem Form.known_suffix {symbols : Text}
    (known : ∀ symbol ∈ symbols, ∃ domain, getDomain symbol = .ok domain) (length : ℕ) :
    ∀ symbol ∈ suffix symbols length, ∃ domain, getDomain symbol = .ok domain :=
  fun symbol symbolMem => known symbol (List.mem_of_mem_drop symbolMem)

theorem Form.suffix_ne_nil {symbols : Text} {length : ℕ} (positive : 0 < length)
    (inside : length ≤ symbols.length) : suffix symbols length ≠ [] := by
  rw [← List.length_pos_iff, suffix, List.length_drop]
  omega

theorem Form.suffix_length (symbols : Text) : suffix symbols symbols.length = symbols := by
  simp [suffix]

/-- One turn of the loop of the telescoping constructor. -/
theorem ImplicitRange.new_suffix_eq_ok_iff {symbols : Text} {leadZero : Bool} {offset : ℕ}
    (inside : offset < symbols.length) {range : ImplicitRange} :
    (do
      let start := symbols.length - offset - 1
      let length := offset + 1
      ImplicitRange.new (← substr symbols start (some length)) leadZero) = .ok range ↔
      (∀ symbol ∈ Form.suffix symbols (offset + 1), ∃ domain, getDomain symbol = .ok domain) ∧
        range = Form.implicitRange leadZero (Form.suffix symbols (offset + 1)) := by
  simp only [substr_suffix inside, Except.ok_bind]
  exact ImplicitRange.new_eq_ok_iff

theorem TelescopingRange.new_eq_ok_iff {symbols : Text} {leadZero : Bool}
    {range : TelescopingRange} :
    TelescopingRange.new symbols leadZero = .ok range ↔
      (∀ symbol ∈ symbols, ∃ domain, getDomain symbol = .ok domain) ∧
        range = { ranges := Form.suffixRanges leadZero symbols, index := 0 } := by
  unfold TelescopingRange.new
  rw [Except.bind_eq_ok_iff]
  constructor
  · rintro ⟨built, traversed, same⟩
    have matched := Except.mapM_eq_ok_iff.mp traversed
    have positions := List.forall₂_iff_get.mp matched
    have builtLength : built.length = symbols.length := by simpa using positions.1.symm
    have each (offset : ℕ) (inside : offset < symbols.length) :=
      (ImplicitRange.new_suffix_eq_ok_iff inside).mp (by
        have atOffset := positions.2 offset (by simpa using inside) (by omega)
        simpa using atOffset)
    constructor
    · intro symbol symbolMem
      have positive : 0 < symbols.length := List.length_pos_of_mem symbolMem
      have whole := (each (symbols.length - 1) (by omega)).1 symbol
      rw [Nat.sub_add_cancel positive, Form.suffix_length] at whole
      exact whole symbolMem
    · cases same
      congr 1
      apply List.ext_getElem
      · simp [Form.suffixRanges, builtLength]
      · intro offset inBuilt inSuffixes
        rw [(each offset (by omega)).2]
        simp [Form.suffixRanges, Nat.add_comm]
  · rintro ⟨known, rfl⟩
    refine ⟨Form.suffixRanges leadZero symbols, ?_, rfl⟩
    apply Except.mapM_eq_ok_iff.mpr
    apply List.forall₂_iff_get.mpr
    refine ⟨by simp [Form.suffixRanges], ?_⟩
    intro offset inRange inSuffixes
    have inside : offset < symbols.length := by simpa using inRange
    have fresh := (@ImplicitRange.new_suffix_eq_ok_iff _ leadZero _ inside
      (Form.suffixRanges leadZero symbols)[offset]).mpr
      ⟨Form.known_suffix known _, by simp [Form.suffixRanges, Nat.add_comm]⟩
    simpa using fresh

theorem ExplicitRange.new_eq_ok_iff {first last : SizeT} {range : ExplicitRange} :
    ExplicitRange.new first last = .ok range ↔
      first ≤ last ∧ range = { start := first, stop := last, current := first } := by
  unfold ExplicitRange.new
  by_cases descending : last < first
  · simp [descending, UInt64.not_le.mpr descending]
  · simp [descending, UInt64.not_lt.mp descending, eq_comm]

namespace Splits

variable {input tail : Text} {pieces : List (Text × Text)}

theorem of_noOpening (split : Splits input pieces tail) (noOpening : '{' ∉ input) :
    pieces = [] ∧ tail = input := by
  cases split with
  | tail => exact ⟨rfl, rfl⟩
  | form => simp at noOpening

theorem of_noOpening_noClosing (split : Splits input pieces tail) (noOpening : '{' ∉ input) :
    '}' ∉ input := by
  cases split with
  | tail _ noClosing => exact noClosing
  | form => simp at noOpening

theorem of_opening {literal behind : Text}
    (split : Splits (literal ++ '{' :: behind) pieces tail) (noOpening : '{' ∉ literal) :
    ∃ body rest rests, behind = body ++ '}' :: rest ∧ '}' ∉ body ∧
      pieces = (literal, body) :: rests ∧ Splits rest rests tail := by
  generalize same : literal ++ '{' :: behind = text at split
  cases split with
  | tail absent => simp [← same] at absent
  | @form _ body rest _ rests noOpening' noClosing split =>
      rcases Search.split_unique noOpening noOpening' same with ⟨rfl, rfl⟩
      exact ⟨body, rest, rests, rfl, noClosing, rfl, split⟩

theorem of_form {literal body rest : Text}
    (split : Splits (literal ++ '{' :: (body ++ '}' :: rest)) pieces tail)
    (noOpening : '{' ∉ literal) (noClosing : '}' ∉ body) :
    ∃ rests, pieces = (literal, body) :: rests ∧ Splits rest rests tail := by
  rcases split.of_opening noOpening with ⟨body', rest', rests, same, noClosing', rfl, split⟩
  rcases Search.split_unique noClosing noClosing' same with ⟨rfl, rfl⟩
  exact ⟨rests, rfl, split⟩

theorem unique {pieces' : List (Text × Text)} {tail' : Text} (split : Splits input pieces tail)
    (split' : Splits input pieces' tail') : pieces = pieces' ∧ tail = tail' := by
  induction split generalizing pieces' tail' with
  | tail noOpening _ =>
      rcases split'.of_noOpening noOpening with ⟨rfl, rfl⟩
      exact ⟨rfl, rfl⟩
  | form noOpening noClosing _ ih =>
      rcases split'.of_form noOpening noClosing with ⟨rests, rfl, behind⟩
      rcases ih behind with ⟨rfl, rfl⟩
      exact ⟨rfl, rfl⟩

end Splits

section Construction

variable {lexicalCast : Text → Option SizeT} {leadZero telescoping : Bool}

namespace UriGenerator

theorem parseEndpoint_eq_ok_iff {token : Text} {value : SizeT} :
    parseEndpoint lexicalCast token = .ok value ↔ lexicalCast token = some value := by
  unfold parseEndpoint
  cases lexicalCast token <;> simp

/-- The pattern of a form whose opening brace stands at `start`. -/
def patternAt (start : ℕ) (body : Text) : Pattern :=
  if body = [] then
    { start, stop := start + 1, type := .continuation, tokens := ([], []) }
  else
    { start, stop := start + body.length + 1, type := (Pattern.readTokens body).1,
      tokens := (Pattern.readTokens body).2 }

@[simp]
theorem patternAt_start (start : ℕ) (body : Text) : (patternAt start body).start = start := by
  unfold patternAt
  split <;> rfl

@[simp]
theorem patternAt_stop (start : ℕ) (body : Text) :
    (patternAt start body).stop = start + body.length + 1 := by
  unfold patternAt
  split <;> simp_all

theorem parseNextPattern_tail {before rest : Text} (noOpening : '{' ∉ rest)
    (noClosing : '}' ∉ rest) : parseNextPattern (before ++ rest) before.length = .ok none := by
  unfold parseNextPattern
  rw [Search.findFrom_eq_none rfl rfl (by grind), Search.findFrom_eq_none rfl rfl (by grind)]

theorem parseNextPattern_stray {before rest : Text} (noOpening : '{' ∉ rest)
    (closing : '}' ∈ rest) :
    parseNextPattern (before ++ rest) before.length =
      .error (.runtimeError "Unmatched closing brace found (\x7d).") := by
  rcases List.eq_append_cons_of_mem closing with ⟨skipped, after, rfl, absent⟩
  unfold parseNextPattern
  rw [Search.findFrom_eq_none rfl rfl (by grind),
    Search.findFrom_eq_some rfl rfl (by grind) (by simp)]

theorem parseNextPattern_unclosed {before literal rest : Text} (noOpening : '{' ∉ literal)
    (noClosing : '}' ∉ rest) :
    parseNextPattern (before ++ (literal ++ '{' :: rest)) before.length =
      .error (.runtimeError
        ("Unmatched open brace at " ++ (before.length + literal.length).repr)) := by
  unfold parseNextPattern
  rw [Search.findFrom_eq_some rfl rfl (by grind) (by simp)]
  have split : before ++ (literal ++ '{' :: rest) = (before ++ literal ++ ['{']) ++ rest := by
    simp
  have behind : Search.findFrom (· == '}') (before.length + literal.length + 1)
      (before ++ (literal ++ '{' :: rest)) = none :=
    Search.findFrom_eq_none split (by simp; omega) (by grind)
  simp only [behind]

theorem parseNextPattern_form {before literal body rest : Text} (noOpening : '{' ∉ literal)
    (noClosing : '}' ∉ body) :
    parseNextPattern (before ++ (literal ++ '{' :: (body ++ '}' :: rest))) before.length =
      .ok (some (patternAt (before.length + literal.length) body)) := by
  have split : before ++ (literal ++ '{' :: (body ++ '}' :: rest)) =
      (before ++ literal ++ ['{']) ++ (body ++ '}' :: rest) := by simp
  have position : before.length + literal.length + 1 = (before ++ literal ++ ['{']).length := by
    simp
    omega
  have behind : Search.findFrom (· == '}') (before.length + literal.length + 1)
      (before ++ (literal ++ '{' :: (body ++ '}' :: rest))) =
        some (before.length + literal.length + 1 + body.length) :=
    Search.findFrom_eq_some split position (by grind) (by simp)
  have between : ((before ++ (literal ++ '{' :: (body ++ '}' :: rest))).drop
      (before.length + literal.length + 1)).take body.length = body := by
    rw [split, position, List.drop_left, List.take_left]
  unfold parseNextPattern patternAt
  rw [Search.findFrom_eq_some rfl rfl (by grind) (by simp)]
  simp only [behind, Nat.add_sub_cancel_left, between]
  cases body with
  | nil => simp
  | cons first body => simp [Nat.add_comm, Nat.add_left_comm]

theorem reads_of_makeRange {ranges : List Range} {start : ℕ} {body : Text} {range : Range}
    (made : makeRange lexicalCast leadZero telescoping ranges (patternAt start body) =
      .ok range) :
    ∃ form, Form.Reads lexicalCast body form ∧ (ranges = [] → form ≠ .continuation) ∧
      range = form.range leadZero telescoping ranges.length := by
  by_cases empty : body = []
  · subst body
    cases ranges with
    | nil => simp [makeRange, patternAt] at made
    | cons first ranges =>
        refine ⟨.continuation, .continuation, by simp, ?_⟩
        simpa [makeRange, patternAt, Form.range, eq_comm] using made
  · by_cases colon : ':' ∈ body
    · rcases List.eq_append_cons_of_mem colon with ⟨before, after, rfl, noColon⟩
      simp only [makeRange, patternAt, if_neg empty, Pattern.readTokens_of_colon noColon,
        Except.bind_eq_ok_iff, parseEndpoint_eq_ok_iff] at made
      rcases made with ⟨first, firstRead, last, lastRead, built, ordered, same⟩
      rcases ExplicitRange.new_eq_ok_iff.mp ordered with ⟨ascending, rfl⟩
      exact ⟨.explicit first last, .explicit noColon firstRead lastRead ascending, by simp,
        (Except.ok.inj same).symm⟩
    · simp only [makeRange, patternAt, if_neg empty, Pattern.readTokens_of_noColon colon] at made
      cases telescoping with
      | true =>
          rcases Except.map_eq_ok_iff.mp made with ⟨built, builtOk, same⟩
          rcases TelescopingRange.new_eq_ok_iff.mp builtOk with ⟨known, rfl⟩
          exact ⟨.implicit body, .implicit empty colon known, by simp, same.symm⟩
      | false =>
          rcases Except.map_eq_ok_iff.mp made with ⟨built, builtOk, same⟩
          rcases ImplicitRange.new_eq_ok_iff.mp builtOk with ⟨known, rfl⟩
          exact ⟨.implicit body, .implicit empty colon known, by simp, same.symm⟩

theorem makeRange_of_reads {ranges : List Range} (start : ℕ) {body : Text} {form : Form}
    (reads : Form.Reads lexicalCast body form) (notFirst : ranges = [] → form ≠ .continuation) :
    makeRange lexicalCast leadZero telescoping ranges (patternAt start body) =
      .ok (form.range leadZero telescoping ranges.length) := by
  cases reads with
  | continuation =>
      cases ranges with
      | nil => exact absurd rfl (notFirst rfl)
      | cons first ranges => simp [makeRange, patternAt, Form.range]
  | explicit noColon start stop ordered =>
      simp only [makeRange, patternAt, Pattern.readTokens_of_colon noColon,
        Except.bind_eq_ok_iff, parseEndpoint_eq_ok_iff, List.append_eq_nil_iff, reduceCtorEq,
        and_false, if_false]
      exact ⟨_, start, _, stop, _, ExplicitRange.new_eq_ok_iff.mpr ⟨ordered, rfl⟩, rfl⟩
  | implicit nonempty noColon known =>
      simp only [makeRange, patternAt, if_neg nonempty, Pattern.readTokens_of_noColon noColon]
      cases telescoping with
      | true =>
          exact Except.map_eq_ok_iff.mpr
            ⟨_, TelescopingRange.new_eq_ok_iff.mpr ⟨known, rfl⟩, rfl⟩
      | false =>
          exact Except.map_eq_ok_iff.mpr
            ⟨_, ImplicitRange.new_eq_ok_iff.mpr ⟨known, rfl⟩, rfl⟩

/-- The `switch` adds exactly the range of the form the body is read as. -/
theorem makeRange_eq_ok_iff {ranges : List Range} {start : ℕ} {body : Text} {range : Range} :
    makeRange lexicalCast leadZero telescoping ranges (patternAt start body) = .ok range ↔
      ∃ form, Form.Reads lexicalCast body form ∧ (ranges = [] → form ≠ .continuation) ∧
        range = form.range leadZero telescoping ranges.length := by
  constructor
  · exact reads_of_makeRange
  · rintro ⟨form, reads, notFirst, rfl⟩
    exact makeRange_of_reads start reads notFirst

/-- What the rest of an input can look like to the constructor. -/
inductive Ahead : Text → Prop where
  | clean {rest : Text} (noOpening : '{' ∉ rest) (noClosing : '}' ∉ rest) : Ahead rest
  | stray {rest : Text} (noOpening : '{' ∉ rest) (closing : '}' ∈ rest) : Ahead rest
  | unclosed {literal rest : Text} (noOpening : '{' ∉ literal) (noClosing : '}' ∉ rest) :
      Ahead (literal ++ '{' :: rest)
  | form {literal body rest : Text} (noOpening : '{' ∉ literal) (noClosing : '}' ∉ body) :
      Ahead (literal ++ '{' :: (body ++ '}' :: rest))

theorem ahead (rest : Text) : Ahead rest := by
  by_cases opening : '{' ∈ rest
  · rcases List.eq_append_cons_of_mem opening with ⟨literal, behind, rfl, noOpening⟩
    by_cases closing : '}' ∈ behind
    · rcases List.eq_append_cons_of_mem closing with ⟨body, after, rfl, noClosing⟩
      exact .form noOpening noClosing
    · exact .unclosed noOpening closing
  · by_cases closing : '}' ∈ rest
    · exact .stray opening closing
    · exact .clean opening closing

theorem newFrom_clean {before rest : Text} {fuel : ℕ} {literals : List Text} {ranges : List Range}
    (noOpening : '{' ∉ rest) (noClosing : '}' ∉ rest) :
    newFrom lexicalCast leadZero telescoping (before ++ rest) (fuel + 1) before.length literals
      ranges = .ok { literalTokens := literals ++ [rest], ranges, isComplete := false } := by
  simp only [newFrom, parseNextPattern_tail noOpening noClosing, substr_append_none,
    Except.ok_bind]
  rfl

theorem newFrom_form {before literal body rest : Text} {fuel : ℕ} {literals : List Text}
    {ranges : List Range} (noOpening : '{' ∉ literal) (noClosing : '}' ∉ body) :
    newFrom lexicalCast leadZero telescoping
        (before ++ (literal ++ '{' :: (body ++ '}' :: rest))) (fuel + 1) before.length literals
        ranges =
      makeRange lexicalCast leadZero telescoping ranges
          (patternAt (before.length + literal.length) body) >>= fun range =>
        newFrom lexicalCast leadZero telescoping
          ((before ++ (literal ++ '{' :: (body ++ ['}']))) ++ rest) fuel
          (before ++ (literal ++ '{' :: (body ++ ['}']))).length (literals ++ [literal])
          (ranges ++ [range]) := by
  have behind : before.length + literal.length + body.length + 1 + 1 =
      (before ++ (literal ++ '{' :: (body ++ ['}']))).length := by
    simp
    omega
  have same : before ++ (literal ++ '{' :: (body ++ '}' :: rest)) =
      before ++ (literal ++ '{' :: (body ++ ['}'])) ++ rest := by simp
  simp only [newFrom, parseNextPattern_form noOpening noClosing, Except.ok_bind, patternAt_start,
    patternAt_stop, Nat.add_sub_cancel_left, substr_append, behind]
  rw [same]

/-- The constructor loop accepts a rest that splits into a literal and readable bodies. -/
theorem newFrom_eq_ok_iff {before rest : Text} {fuel : ℕ} (enough : rest.length < fuel)
    {literals : List Text} {ranges : List Range} {generator : UriGenerator} :
    newFrom lexicalCast leadZero telescoping (before ++ rest) fuel before.length literals ranges =
        .ok generator ↔
      ∃ pieces tail forms, Splits rest pieces tail ∧
        List.Forall₂ (fun piece form => Form.Reads lexicalCast piece.2 form) pieces forms ∧
        (ranges = [] → forms.head? ≠ some .continuation) ∧
        generator = { literalTokens := literals ++ (pieces.map Prod.fst ++ [tail])
                      ranges := ranges ++ Form.ranges leadZero telescoping ranges.length forms
                      isComplete := false } := by
  induction fuel generalizing before rest literals ranges with
  | zero => omega
  | succ fuel ih =>
      cases ahead rest with
      | clean noOpening noClosing =>
          rw [newFrom_clean noOpening noClosing]
          constructor
          · intro built
            cases built
            exact ⟨[], rest, [], .tail noOpening noClosing, .nil, by simp, by
              simp [Form.ranges]⟩
          · rintro ⟨pieces, tail, forms, split, read, -, rfl⟩
            rcases split.of_noOpening noOpening with ⟨rfl, rfl⟩
            cases read
            simp [Form.ranges]
      | stray noOpening closing =>
          constructor
          · intro built
            simp [newFrom, parseNextPattern_stray noOpening closing] at built
          · rintro ⟨pieces, tail, forms, split, -⟩
            exact absurd closing (split.of_noOpening_noClosing noOpening)
      | @unclosed literal behind noOpening noClosing =>
          constructor
          · intro built
            simp [newFrom, parseNextPattern_unclosed noOpening noClosing] at built
          · rintro ⟨pieces, tail, forms, split, -⟩
            rcases split.of_opening noOpening with ⟨body, rest, pieces, rfl, -⟩
            simp at noClosing
      | @form literal body rest noOpening noClosing =>
          have shorter : rest.length < fuel := by
            simp only [List.length_append, List.length_cons] at enough
            omega
          rw [newFrom_form noOpening noClosing, Except.bind_eq_ok_iff]
          constructor
          · rintro ⟨range, made, built⟩
            rcases makeRange_eq_ok_iff.mp made with ⟨form, reads, first, rfl⟩
            rcases (ih shorter).mp built with ⟨pieces, tail, forms, split, read, -, rfl⟩
            refine ⟨(literal, body) :: pieces, tail, form :: forms,
              .form noOpening noClosing split, .cons reads read, ?_, ?_⟩
            · intro empty
              simpa using first empty
            · simp [Form.ranges]
          · rintro ⟨pieces, tail, forms, split, read, first, rfl⟩
            rcases split.of_form noOpening noClosing with ⟨pieces, rfl, behind⟩
            cases read with
            | @cons _ form _ forms reads read =>
                refine ⟨_, makeRange_eq_ok_iff.mpr ⟨form, reads, ?_, rfl⟩, ?_⟩
                · intro empty
                  simpa using first empty
                · rw [ih shorter]
                  exact ⟨pieces, tail, forms, behind, read, by simp, by simp [Form.ranges]⟩

/--
The constructor accepts exactly the inputs that split into literals and
readable bodies, the first of which is not a continuation.
-/
theorem new_eq_ok_iff {input : Text} {generator : UriGenerator} :
    new lexicalCast leadZero telescoping input = .ok generator ↔
      ∃ pieces tail forms, Splits input pieces tail ∧
        List.Forall₂ (fun piece form => Form.Reads lexicalCast piece.2 form) pieces forms ∧
        forms.head? ≠ some .continuation ∧
        generator = { literalTokens := pieces.map Prod.fst ++ [tail]
                      ranges := Form.ranges leadZero telescoping 0 forms
                      isComplete := false } := by
  have followed := @newFrom_eq_ok_iff lexicalCast leadZero telescoping [] input
    (input.length + 1) (by omega) [] [] generator
  simpa [new] using followed

end UriGenerator

end Construction

end Abrade
