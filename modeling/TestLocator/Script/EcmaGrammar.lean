import TestLocator.Grammar.Rule

/-!
# The grammar of JavaScript

The statements, expressions, patterns and JSX elements of JavaScript as rules whose names are the
node kinds of the trees. A name with a leading underscore makes no node of its own.

* `blankChars`, `identifierStart`, `identifierPart` — the character classes of the language;
* `statementRules`, `expressionRules`, `elementRules`, `wordRules` — the rules by theme;
* `ecmaGrammar` — the grammar.

The grammar is generous: it also accepts texts that a script engine would refuse.
-/

namespace TestLocator.Script

open TestLocator.Grammar Rule

/-- A rule that names other rules by text. -/
abbrev Body := Rule String

/-- A reference to a rule. -/
def the (name : String) : Body := ref name

/-- A precedence level of a name. -/
def binds (name : String) : Prec := .named name

/-! ## Characters -/

/-- The space separators. -/
def spaceSeparators : CharSet :=
  .ofChars "\u0020\u00a0\u1680\u202f\u205f\u3000" ++ .ofRange '\u2000' '\u200a'

/-- What may stand between two tokens, other than comments. -/
def blankChars : CharSet :=
  .blank ++ spaceSeparators ++ .ofChars "\ufeff\u2028\u2029\u2060\u200b"

/-- The characters that end an identifier. -/
def breakChars : CharSet :=
  blankChars ++ .ofRange '\x00' '\x1f' ++
    .ofChars ":;`\"'@#.,|^&<=>+-*/\\%?!~()[]\x7b\x7d"

/-- An escaped character of an identifier. -/
def unicodeEscape : Body :=
  oneOf [seq ["\\u", chars .hexDigit, chars .hexDigit, chars .hexDigit, chars .hexDigit],
    seq ["\\u\x7b", plus (chars .hexDigit), "\x7d"]]

/-- The first character of an identifier. -/
def identifierStart : Body := oneOf [chars (breakChars ++ .digit).compl, unicodeEscape]

/-- A later character of an identifier. -/
def identifierPart : Body := oneOf [chars breakChars.compl, unicodeEscape]

/-- The spelling of an identifier. -/
def identifierText : Body := seq [identifierStart, many identifierPart]

/-! ## Statements -/

/-- Modules, declarations and statements. -/
def statementRules : List (String × Body) := [
  ("program", seq [opt (the "hash_bang_line"), many (the "statement")]),
  ("hash_bang_line", token (seq ["#!", many (chars (CharSet.ofChar '\n').compl)])),
  ("export_statement", oneOf [
    seq [
      "export",
      oneOf [
        seq ["*", the "_from_clause"],
        seq [the "namespace_export", the "_from_clause"],
        seq [the "export_clause", the "_from_clause"],
        the "export_clause"],
      the "_semicolon"],
    seq [
      many (field "decorator" (the "decorator")),
      "export",
      oneOf [
        field "declaration" (the "declaration"),
        seq [
          "default",
          oneOf [
            field "declaration" (the "declaration"),
            seq [field "value" (the "expression"), the "_semicolon"]]]]]]),
  ("namespace_export", seq ["*", "as", the "_module_export_name"]),
  ("export_clause", seq [
    "\x7b", commaSep (the "export_specifier"), opt ",", "\x7d"]),
  ("export_specifier", seq [
    field "name" (the "_module_export_name"),
    opt (seq ["as", field "alias" (the "_module_export_name")])]),
  ("_module_export_name", oneOf [the "identifier", the "string"]),
  ("declaration", oneOf [
    the "function_declaration",
    the "generator_function_declaration",
    the "class_declaration",
    the "lexical_declaration",
    the "variable_declaration"]),
  ("import", token (text "import")),
  ("import_statement", seq [
    "import",
    oneOf [
      seq [the "import_clause", the "_from_clause"],
      field "source" (the "string")],
    opt (the "import_attribute"),
    the "_semicolon"]),
  ("import_clause", oneOf [
    the "namespace_import",
    the "named_imports",
    seq [
      the "identifier",
      opt (seq [",", oneOf [the "namespace_import", the "named_imports"]])]]),
  ("_from_clause", seq ["from", field "source" (the "string")]),
  ("namespace_import", seq ["*", "as", the "identifier"]),
  ("named_imports", seq ["\x7b", commaSep (the "import_specifier"), opt ",", "\x7d"]),
  ("import_specifier", oneOf [
    field "name" (the "identifier"),
    seq [
      field "name" (the "_module_export_name"), "as", field "alias" (the "identifier")]]),
  ("import_attribute", seq ["with", the "object"]),
  ("statement", oneOf [
    the "export_statement",
    the "import_statement",
    the "debugger_statement",
    the "expression_statement",
    the "declaration",
    the "statement_block",
    the "if_statement",
    the "switch_statement",
    the "for_statement",
    the "for_in_statement",
    the "while_statement",
    the "do_statement",
    the "try_statement",
    the "with_statement",
    the "break_statement",
    the "continue_statement",
    the "return_statement",
    the "throw_statement",
    the "empty_statement",
    the "labeled_statement"]),
  ("expression_statement", seq [the "_expressions", the "_semicolon"]),
  ("variable_declaration", seq [
    "var", commaSep1 (the "variable_declarator"), the "_semicolon"]),
  ("lexical_declaration", seq [
    field "kind" (oneOf ["let", "const"]),
    commaSep1 (the "variable_declarator"),
    the "_semicolon"]),
  ("variable_declarator", seq [
    field "name" (oneOf [the "identifier", the "_destructuring_pattern"]),
    opt (the "_initializer")]),
  ("statement_block", right (seq [
    "\x7b", many (the "statement"), "\x7d", opt (the "_automatic_semicolon")])),
  ("else_clause", seq ["else", the "statement"]),
  ("if_statement", right (seq [
    "if",
    field "condition" (the "parenthesized_expression"),
    field "consequence" (the "statement"),
    opt (field "alternative" (the "else_clause"))])),
  ("switch_statement", seq [
    "switch",
    field "value" (the "parenthesized_expression"),
    field "body" (the "switch_body")]),
  ("for_statement", seq [
    "for",
    "(",
    oneOf [
      field "initializer" (oneOf [the "lexical_declaration", the "variable_declaration"]),
      seq [field "initializer" (the "_expressions"), ";"],
      field "initializer" (the "empty_statement")],
    field "condition" (oneOf [
      seq [the "_expressions", ";"],
      the "empty_statement"]),
    field "increment" (opt (the "_expressions")),
    ")",
    field "body" (the "statement")]),
  ("for_in_statement", seq [
    "for", opt "await", the "_for_header", field "body" (the "statement")]),
  ("_for_header", seq [
    "(",
    oneOf [
      field "left" (oneOf [the "_lhs_expression", the "parenthesized_expression"]),
      seq [
        field "kind" "var",
        field "left" (oneOf [the "identifier", the "_destructuring_pattern"]),
        opt (the "_initializer")],
      seq [
        field "kind" (oneOf ["let", "const"]),
        field "left" (oneOf [the "identifier", the "_destructuring_pattern"]),
        opt (the "_automatic_semicolon")]],
    field "operator" (oneOf ["in", "of"]),
    field "right" (the "_expressions"),
    ")"]),
  ("while_statement", seq [
    "while",
    field "condition" (the "parenthesized_expression"),
    field "body" (the "statement")]),
  ("do_statement", right (seq [
    "do",
    field "body" (the "statement"),
    "while",
    field "condition" (the "parenthesized_expression"),
    opt (the "_semicolon")])),
  ("try_statement", seq [
    "try",
    field "body" (the "statement_block"),
    opt (field "handler" (the "catch_clause")),
    opt (field "finalizer" (the "finally_clause"))]),
  ("with_statement", seq [
    "with",
    field "object" (the "parenthesized_expression"),
    field "body" (the "statement")]),
  ("break_statement", seq [
    "break",
    field "label" (opt (aliasAs "statement_identifier" (the "identifier"))),
    the "_semicolon"]),
  ("continue_statement", seq [
    "continue",
    field "label" (opt (aliasAs "statement_identifier" (the "identifier"))),
    the "_semicolon"]),
  ("debugger_statement", seq ["debugger", the "_semicolon"]),
  ("return_statement", seq ["return", opt (the "_expressions"), the "_semicolon"]),
  ("throw_statement", seq ["throw", the "_expressions", the "_semicolon"]),
  ("empty_statement", text ";"),
  ("labeled_statement", dynamic (-1) (seq [
    field "label" (aliasAs "statement_identifier"
      (oneOf [the "identifier", the "_reserved_identifier"])),
    ":",
    field "body" (the "statement")])),
  ("switch_body", seq [
    "\x7b", many (oneOf [the "switch_case", the "switch_default"]), "\x7d"]),
  ("switch_case", seq [
    "case",
    field "value" (the "_expressions"),
    ":",
    field "body" (many (the "statement"))]),
  ("switch_default", seq ["default", ":", field "body" (many (the "statement"))]),
  ("catch_clause", seq [
    "catch",
    opt (seq [
      "(",
      field "parameter" (oneOf [the "identifier", the "_destructuring_pattern"]),
      ")"]),
    field "body" (the "statement_block")]),
  ("finally_clause", seq ["finally", field "body" (the "statement_block")]),
  ("parenthesized_expression", seq ["(", the "_expressions", ")"])]

/-! ## Expressions -/

/-- The binary operators with their precedence names. -/
def binaryOperators : List (String × String) := [
  ("&&", "logical_and"),
  ("||", "logical_or"),
  (">>", "binary_shift"),
  (">>>", "binary_shift"),
  ("<<", "binary_shift"),
  ("&", "bitwise_and"),
  ("^", "bitwise_xor"),
  ("|", "bitwise_or"),
  ("+", "binary_plus"),
  ("-", "binary_plus"),
  ("*", "binary_times"),
  ("/", "binary_times"),
  ("%", "binary_times"),
  ("**", "binary_exp"),
  ("<", "binary_relation"),
  ("<=", "binary_relation"),
  ("==", "binary_equality"),
  ("===", "binary_equality"),
  ("!=", "binary_equality"),
  ("!==", "binary_equality"),
  (">=", "binary_relation"),
  (">", "binary_relation"),
  ("??", "ternary"),
  ("instanceof", "binary_relation"),
  ("in", "binary_relation")]

/-- One binary operator between two expressions. A power groups to the right, all else to the
left, and a private name may stand before `in`. -/
def binaryOperation (op : String × String) : Body :=
  (if op.1 == "**" then precRight else precLeft) (binds op.2) (seq [
    field "left" (if op.1 == "in"
      then oneOf [the "expression", the "private_property_identifier"]
      else the "expression"),
    field "operator" op.1,
    field "right" (the "expression")])

/-- Expressions, patterns, functions and classes. -/
def expressionRules : List (String × Body) := [
  ("_expressions", oneOf [the "expression", the "sequence_expression"]),
  ("expression", oneOf [
    the "primary_expression",
    the "_jsx_element",
    the "assignment_expression",
    the "augmented_assignment_expression",
    the "await_expression",
    the "unary_expression",
    the "binary_expression",
    the "ternary_expression",
    the "update_expression",
    the "new_expression",
    the "yield_expression"]),
  ("primary_expression", oneOf [
    the "subscript_expression",
    the "member_expression",
    the "parenthesized_expression",
    the "_identifier",
    aliasAs "identifier" (the "_reserved_identifier"),
    the "this",
    the "super",
    the "number",
    the "string",
    the "template_string",
    the "regex",
    the "true",
    the "false",
    the "null",
    the "object",
    the "array",
    the "function_expression",
    the "arrow_function",
    the "generator_function",
    the "class",
    the "meta_property",
    the "call_expression"]),
  ("yield_expression", right (seq [
    "yield",
    oneOf [seq ["*", the "expression"], opt (the "expression")]])),
  ("object", prec (binds "object") (seq [
    "\x7b",
    commaSep (opt (oneOf [
      the "pair",
      the "spread_element",
      the "method_definition",
      aliasAs "shorthand_property_identifier"
        (oneOf [the "identifier", the "_reserved_identifier"])])),
    "\x7d"])),
  ("object_pattern", prec (binds "object") (seq [
    "\x7b",
    commaSep (opt (oneOf [
      the "pair_pattern",
      the "rest_pattern",
      the "object_assignment_pattern",
      aliasAs "shorthand_property_identifier_pattern"
        (oneOf [the "identifier", the "_reserved_identifier"])])),
    "\x7d"])),
  ("assignment_pattern", seq [
    field "left" (the "pattern"), "=", field "right" (the "expression")]),
  ("object_assignment_pattern", seq [
    field "left" (oneOf [
      aliasAs "shorthand_property_identifier_pattern"
        (oneOf [the "_reserved_identifier", the "identifier"]),
      the "_destructuring_pattern"]),
    "=",
    field "right" (the "expression")]),
  ("array", seq [
    "[", commaSep (opt (oneOf [the "expression", the "spread_element"])), "]"]),
  ("array_pattern", seq [
    "[", commaSep (opt (oneOf [the "pattern", the "assignment_pattern"])), "]"])]

/-! ## Elements -/

/-- Elements written in angle brackets inside a script. -/
def elementRules : List (String × Body) := [
  ("_jsx_element", oneOf [the "jsx_element", the "jsx_self_closing_element"]),
  ("jsx_element", seq [
    field "open_tag" (the "jsx_opening_element"),
    many (the "_jsx_child"),
    field "close_tag" (the "jsx_closing_element")]),
  ("html_character_reference", token (seq [
    "&",
    oneOf [
      seq ["#", oneOf [
        seq [chars (.ofChars "xX"), upTo 6 (chars .hexDigit)],
        upTo 5 (chars .digit)]],
      upTo 30 (chars (.ofRange 'A' 'Z' ++ .ofRange 'a' 'z'))],
    ";"])),
  ("jsx_expression", seq [
    "\x7b",
    opt (oneOf [the "expression", the "sequence_expression", the "spread_element"]),
    "\x7d"]),
  ("_jsx_child", oneOf [
    the "jsx_text",
    the "html_character_reference",
    the "_jsx_element",
    the "jsx_expression"]),
  ("jsx_opening_element", dynamic (-1) (seq [
    "<",
    opt (seq [
      field "name" (the "_jsx_element_name"),
      many (field "attribute" (the "_jsx_attribute"))]),
    ">"])),
  ("jsx_identifier", token (seq [
    chars (.ofRange 'a' 'z' ++ .ofRange 'A' 'Z' ++ .ofChars "_$"),
    many (chars (.ofRange 'a' 'z' ++ .ofRange 'A' 'Z' ++ .digit ++ .ofChars "_$")),
    "-",
    many (chars (.ofRange 'a' 'z' ++ .ofRange 'A' 'Z' ++ .digit ++ .ofChars "_$-"))])),
  ("_jsx_identifier", oneOf [
    aliasAs "identifier" (the "jsx_identifier"), the "identifier"]),
  ("nested_identifier", prec (binds "member") (seq [
    field "object" (oneOf [
      the "identifier", aliasAs "member_expression" (the "nested_identifier")]),
    ".",
    field "property" (aliasAs "property_identifier" (the "identifier"))])),
  ("jsx_namespace_name", seq [the "_jsx_identifier", ":", the "_jsx_identifier"]),
  ("_jsx_element_name", oneOf [
    the "_jsx_identifier",
    aliasAs "member_expression" (the "nested_identifier"),
    the "jsx_namespace_name"]),
  ("jsx_closing_element", seq [
    "</", opt (field "name" (the "_jsx_element_name")), ">"]),
  ("jsx_self_closing_element", seq [
    "<",
    field "name" (the "_jsx_element_name"),
    many (field "attribute" (the "_jsx_attribute")),
    "/>"]),
  ("_jsx_attribute", oneOf [the "jsx_attribute", the "jsx_expression"]),
  ("_jsx_attribute_name", oneOf [
    aliasAs "property_identifier" (the "_jsx_identifier"), the "jsx_namespace_name"]),
  ("jsx_attribute", seq [
    the "_jsx_attribute_name",
    opt (seq ["=", the "_jsx_attribute_value"])]),
  ("_jsx_string", oneOf [
    seq [
      "\"",
      many (oneOf [
        aliasAs "string_fragment" (the "unescaped_double_jsx_string_fragment"),
        the "html_character_reference"]),
      "\""],
    seq [
      "'",
      many (oneOf [
        aliasAs "string_fragment" (the "unescaped_single_jsx_string_fragment"),
        the "html_character_reference"]),
      "'"]]),
  ("unescaped_double_jsx_string_fragment", immediate (prec (.level 1) (plus (oneOf [
    chars (CharSet.ofChars "\"&").compl,
    seq ["&", chars (CharSet.ofChars "#" ++ .ofRange 'A' 'Z' ++ .ofRange 'a' 'z').compl]])))),
  ("unescaped_single_jsx_string_fragment", immediate (prec (.level 1) (plus (oneOf [
    chars (CharSet.ofChars "'&").compl,
    seq ["&", chars (CharSet.ofChars "#" ++ .ofRange 'A' 'Z' ++ .ofRange 'a' 'z').compl]])))),
  ("_jsx_attribute_value", oneOf [
    aliasAs "string" (the "_jsx_string"),
    the "jsx_expression",
    the "_jsx_element"])]

/-! ## Functions, classes and operators -/

/-- Functions, classes, calls, operators and assignments. -/
def operatorRules : List (String × Body) := [
  ("class", prec (binds "literal") (seq [
    many (field "decorator" (the "decorator")),
    "class",
    field "name" (opt (the "identifier")),
    opt (the "class_heritage"),
    field "body" (the "class_body")])),
  ("class_declaration", prec (binds "declare") (seq [
    many (field "decorator" (the "decorator")),
    "class",
    field "name" (the "identifier"),
    opt (the "class_heritage"),
    field "body" (the "class_body"),
    opt (the "_automatic_semicolon")])),
  ("class_heritage", seq ["extends", the "expression"]),
  ("function_expression", prec (binds "literal") (seq [
    opt "async",
    "function",
    field "name" (opt (the "identifier")),
    the "_call_signature",
    field "body" (the "statement_block")])),
  ("function_declaration", precRight (binds "declare") (seq [
    opt "async",
    "function",
    field "name" (the "identifier"),
    the "_call_signature",
    field "body" (the "statement_block"),
    opt (the "_automatic_semicolon")])),
  ("generator_function", prec (binds "literal") (seq [
    opt "async",
    "function",
    "*",
    field "name" (opt (the "identifier")),
    the "_call_signature",
    field "body" (the "statement_block")])),
  ("generator_function_declaration", precRight (binds "declare") (seq [
    opt "async",
    "function",
    "*",
    field "name" (the "identifier"),
    the "_call_signature",
    field "body" (the "statement_block"),
    opt (the "_automatic_semicolon")])),
  ("arrow_function", seq [
    opt "async",
    oneOf [
      field "parameter" (oneOf [
        aliasAs "identifier" (the "_reserved_identifier"), the "identifier"]),
      the "_call_signature"],
    "=>",
    field "body" (oneOf [the "expression", the "statement_block"])]),
  ("_call_signature", field "parameters" (the "formal_parameters")),
  ("_formal_parameter", oneOf [the "pattern", the "assignment_pattern"]),
  ("optional_chain", text "?."),
  ("call_expression", oneOf [
    prec (binds "call") (seq [
      field "function" (oneOf [the "expression", the "import"]),
      field "arguments" (the "arguments")]),
    prec (binds "template_call") (seq [
      field "function" (oneOf [the "primary_expression", the "new_expression"]),
      field "arguments" (the "template_string")]),
    prec (binds "member") (seq [
      field "function" (the "primary_expression"),
      field "optional_chain" (the "optional_chain"),
      field "arguments" (the "arguments")])]),
  ("new_expression", precRight (binds "new") (seq [
    "new",
    field "constructor" (oneOf [the "primary_expression", the "new_expression"]),
    field "arguments" (opt (dynamic 1 (the "arguments")))])),
  ("await_expression", prec (binds "unary_void") (seq ["await", the "expression"])),
  ("member_expression", prec (binds "member") (seq [
    field "object" (oneOf [the "expression", the "primary_expression", the "import"]),
    oneOf [".", field "optional_chain" (the "optional_chain")],
    field "property" (oneOf [
      the "private_property_identifier",
      aliasAs "property_identifier" (the "identifier")])])),
  ("subscript_expression", precRight (binds "member") (seq [
    field "object" (oneOf [the "expression", the "primary_expression"]),
    opt (field "optional_chain" (the "optional_chain")),
    "[",
    field "index" (the "_expressions"),
    "]"])),
  ("_lhs_expression", oneOf [
    the "member_expression",
    the "subscript_expression",
    the "_identifier",
    aliasAs "identifier" (the "_reserved_identifier"),
    the "_destructuring_pattern"]),
  ("assignment_expression", precRight (binds "assign") (seq [
    field "left" (oneOf [the "parenthesized_expression", the "_lhs_expression"]),
    "=",
    field "right" (the "expression")])),
  ("_augmented_assignment_lhs", oneOf [
    the "member_expression",
    the "subscript_expression",
    aliasAs "identifier" (the "_reserved_identifier"),
    the "identifier",
    the "parenthesized_expression"]),
  ("augmented_assignment_expression", precRight (binds "assign") (seq [
    field "left" (the "_augmented_assignment_lhs"),
    field "operator" (oneOf [
      "+=", "-=", "*=", "/=", "%=", "^=", "&=", "|=", ">>=", ">>>=", "<<=", "**=", "&&=", "||=",
      "??="]),
    field "right" (the "expression")])),
  ("_initializer", seq ["=", field "value" (the "expression")]),
  ("_destructuring_pattern", oneOf [the "object_pattern", the "array_pattern"]),
  ("spread_element", seq ["...", the "expression"]),
  ("ternary_expression", precRight (binds "ternary") (seq [
    field "condition" (the "expression"),
    aliasText "?" (the "_ternary_qmark"),
    field "consequence" (the "expression"),
    ":",
    field "alternative" (the "expression")])),
  ("binary_expression", oneOf (binaryOperators.map binaryOperation)),
  ("unary_expression", precLeft (binds "unary_void") (seq [
    field "operator" (oneOf ["!", "~", "-", "+", "typeof", "void", "delete"]),
    field "argument" (the "expression")])),
  ("update_expression", left (oneOf [
    seq [
      field "argument" (the "expression"), field "operator" (oneOf ["++", "--"])],
    seq [
      field "operator" (oneOf ["++", "--"]), field "argument" (the "expression")]])),
  ("sequence_expression", right (commaSep1 (the "expression")))]

/-! ## Words, texts and members -/

/-- A run of digits, with single underscores between them. -/
def digitRun (set : CharSet) : Body := seq [chars set, many (seq [opt "_", chars set])]

/-- Numbers with a base mark. -/
def basedNumber (marks : List String) (set : CharSet) : Body :=
  seq [oneOf (marks.map text), digitRun set]

/-- The spelling of a number. -/
def numberText : Body :=
  let digits := digitRun .digit
  let hex := basedNumber ["0x", "0X"] .hexDigit
  let binary := basedNumber ["0b", "0B"] (.ofRange '0' '1')
  let octal := basedNumber ["0o", "0O"] (.ofRange '0' '7')
  let exponent := seq [oneOf ["e", "E"], seq [opt (oneOf ["-", "+"]), digits]]
  let whole := oneOf ["0", seq [opt "0", chars (.ofRange '1' '9'),
    opt (seq [opt "_", digits])]]
  let decimal := oneOf [
    seq [whole, ".", opt digits, opt exponent],
    seq [".", digits, opt exponent],
    seq [whole, exponent],
    seq [digits]]
  oneOf [hex, decimal, binary, octal, seq [oneOf [hex, binary, octal, digits], "n"]]

/-- The characters that end a line. -/
def lineEnds : CharSet := .ofChars "\r\n\u2028\u2029"

/-- The words that also serve as names. -/
def reservedWords : Body := oneOf ["get", "set", "async", "static", "export", "let"]

/-- Literals, names, members and what remains. -/
def wordRules : List (String × Body) := [
  ("string", oneOf [
    seq [
      "\"",
      many (oneOf [
        aliasAs "string_fragment" (the "unescaped_double_string_fragment"),
        the "escape_sequence"]),
      "\""],
    seq [
      "'",
      many (oneOf [
        aliasAs "string_fragment" (the "unescaped_single_string_fragment"),
        the "escape_sequence"]),
      "'"]]),
  ("unescaped_double_string_fragment",
    immediate (prec (.level 1) (plus (chars (CharSet.ofChars "\"\\\r\n").compl)))),
  ("unescaped_single_string_fragment",
    immediate (prec (.level 1) (plus (chars (CharSet.ofChars "'\\\r\n").compl)))),
  ("escape_sequence", immediate (seq [
    "\\",
    oneOf [
      chars (CharSet.ofChars "xu" ++ .ofRange '0' '7').compl,
      upTo 3 (chars (.ofRange '0' '7')),
      seq ["x", chars .hexDigit, chars .hexDigit],
      seq ["u", chars .hexDigit, chars .hexDigit, chars .hexDigit, chars .hexDigit],
      seq ["u\x7b", plus (chars .hexDigit), "\x7d"],
      seq [chars (.ofChars "\r?"), chars (.ofChars "\n\u2028\u2029")]]])),
  ("comment", token (oneOf [
    seq ["//", many (chars lineEnds.compl)],
    seq [
      "/*",
      many (chars (CharSet.ofChar '*').compl),
      plus "*",
      many (seq [
        chars (CharSet.ofChars "/*").compl,
        many (chars (CharSet.ofChar '*').compl),
        plus "*"]),
      "/"]])),
  ("template_string", seq [
    "`",
    many (oneOf [
      aliasAs "string_fragment" (the "_template_chars"),
      the "escape_sequence",
      the "template_substitution"]),
    "`"]),
  ("template_substitution", seq ["$\x7b", the "_expressions", "\x7d"]),
  ("regex", seq [
    "/",
    field "pattern" (the "regex_pattern"),
    immediate (prec (.level 1) "/"),
    opt (field "flags" (the "regex_flags"))]),
  ("regex_pattern", immediate (prec (.level (-1)) (plus (oneOf [
    seq [
      "[",
      many (oneOf [
        seq ["\\", chars (CharSet.ofChar '\n').compl],
        chars (CharSet.ofChars "]\n\\").compl]),
      "]"],
    seq ["\\", chars (CharSet.ofChar '\n').compl],
    chars (CharSet.ofChars "/\\[\n").compl])))),
  ("regex_flags", immediate (plus (chars (.ofRange 'a' 'z')))),
  ("number", token numberText),
  ("_identifier", oneOf [the "undefined", the "identifier"]),
  ("identifier", token identifierText),
  ("private_property_identifier", token (seq ["#", identifierText])),
  ("meta_property", oneOf [
    seq ["new", ".", "target"],
    seq ["import", ".", "meta"]]),
  ("this", text "this"),
  ("super", text "super"),
  ("true", text "true"),
  ("false", text "false"),
  ("null", text "null"),
  ("undefined", text "undefined"),
  ("arguments", seq [
    "(", commaSep (opt (oneOf [the "expression", the "spread_element"])), ")"]),
  ("decorator", seq [
    "@",
    oneOf [
      the "identifier",
      aliasAs "member_expression" (the "decorator_member_expression"),
      aliasAs "call_expression" (the "decorator_call_expression")]]),
  ("decorator_member_expression", prec (binds "member") (seq [
    field "object" (oneOf [
      the "identifier",
      aliasAs "member_expression" (the "decorator_member_expression")]),
    ".",
    field "property" (aliasAs "property_identifier" (the "identifier"))])),
  ("decorator_call_expression", prec (binds "call") (seq [
    field "function" (oneOf [
      the "identifier",
      aliasAs "member_expression" (the "decorator_member_expression")]),
    field "arguments" (the "arguments")])),
  ("class_body", seq [
    "\x7b",
    many (oneOf [
      seq [field "member" (the "method_definition"), opt ";"],
      seq [field "member" (the "field_definition"), the "_semicolon"],
      field "member" (the "class_static_block"),
      ";"]),
    "\x7d"]),
  ("field_definition", seq [
    many (field "decorator" (the "decorator")),
    opt "static",
    field "property" (the "_property_name"),
    opt (the "_initializer")]),
  ("formal_parameters", seq [
    "(",
    opt (seq [commaSep1 (the "_formal_parameter"), opt ","]),
    ")"]),
  ("class_static_block", seq [
    "static", opt (the "_automatic_semicolon"), field "body" (the "statement_block")]),
  ("pattern", dynamic (-1) (oneOf [the "_lhs_expression", the "rest_pattern"])),
  ("rest_pattern", right (seq ["...", the "_lhs_expression"])),
  ("method_definition", seq [
    many (field "decorator" (the "decorator")),
    opt (oneOf [
      "static",
      aliasText "static get" (token (seq [
        "static", plus (chars .blank), "get", many (chars .blank), "\n"]))]),
    opt "async",
    opt (oneOf ["get", "set", "*"]),
    field "name" (the "_property_name"),
    field "parameters" (the "formal_parameters"),
    field "body" (the "statement_block")]),
  ("pair", seq [
    field "key" (the "_property_name"), ":", field "value" (the "expression")]),
  ("pair_pattern", seq [
    field "key" (the "_property_name"),
    ":",
    field "value" (oneOf [the "pattern", the "assignment_pattern"])]),
  ("_property_name", oneOf [
    aliasAs "property_identifier" (oneOf [the "identifier", the "_reserved_identifier"]),
    the "private_property_identifier",
    the "string",
    the "number",
    the "computed_property_name"]),
  ("computed_property_name", seq ["[", the "expression", "]"]),
  ("_reserved_identifier", reservedWords),
  ("_semicolon", oneOf [the "_automatic_semicolon", ";"])]

/-! ## The grammar -/

/-- A precedence order of names and rules: a name of a rule starts with a dollar sign. -/
def order (entries : List String) : List PrecEntry :=
  entries.map fun e => if e.startsWith "$" then .rule (e.drop 1).toString else .prec e

/-- The precedence orders of expressions. -/
def ecmaPrecedences : List (List PrecEntry) := [
  order ["member", "template_call", "call", "$update_expression", "unary_void", "binary_exp",
    "binary_times", "binary_plus", "binary_shift", "binary_compare", "binary_relation",
    "binary_equality", "bitwise_and", "bitwise_xor", "bitwise_or", "logical_and", "logical_or",
    "ternary", "$sequence_expression", "$arrow_function"],
  order ["assign", "$primary_expression"],
  order ["member", "template_call", "new", "call", "$expression"],
  order ["declare", "literal"],
  order ["$primary_expression", "$statement_block", "object"],
  order ["$meta_property", "$import"],
  order ["$import_statement", "$import"],
  order ["$export_statement", "$primary_expression"],
  order ["$lexical_declaration", "$primary_expression"]]

/-- The tokens that the hand-written scanner finds. -/
def ecmaExternals : List Body := [
  the "_automatic_semicolon",
  the "_template_chars",
  the "_ternary_qmark",
  the "html_comment",
  "||",
  the "escape_sequence",
  the "regex_pattern",
  the "jsx_text"]

/-- The grammar of JavaScript. -/
def ecmaGrammar : RuleSet where
  rules := statementRules ++ expressionRules ++ elementRules ++ operatorRules ++ wordRules
  extras := [the "comment", the "html_comment", chars blankChars]
  externals := ecmaExternals
  inlined := ["_call_signature", "_formal_parameter", "_expressions", "_semicolon", "_identifier",
    "_reserved_identifier", "_jsx_attribute", "_jsx_element_name", "_jsx_child", "_jsx_element",
    "_jsx_attribute_name", "_jsx_attribute_value", "_jsx_identifier", "_lhs_expression"]
  supertypes := ["statement", "declaration", "expression", "primary_expression", "pattern"]
  precedences := ecmaPrecedences
  word := "identifier"

end TestLocator.Script
