import TestLocator.Script.EcmaGrammar

/-!
# The grammars of TypeScript

TypeScript extends the grammar of JavaScript: some rules are replaced, others are added. The two
dialects differ only in what an expression may be. One has type assertions in angle brackets, the
other has elements.

* `Dialect` — plain or with elements;
* `declarationRules`, `typeRules` — the rules that are replaced or added;
* `typedGrammar` — the grammar of a dialect.
-/

namespace TestLocator.Script

open TestLocator.Grammar Rule

/-- The two dialects of TypeScript. -/
inductive Dialect where
  | plain
  | elements
  deriving DecidableEq, Repr

/-- The body of a named rule. -/
def bodyOf (rules : List (String × Body)) (name : String) : Body :=
  (rules.lookup name).getD blank

/-- Replace the rule of that name in its place, or add it at the end. -/
def setRule (rules : List (String × Body)) (rule : String × Body) : List (String × Body) :=
  if rules.any (·.1 == rule.1)
  then rules.map fun r => if r.1 == rule.1 then rule else r
  else rules ++ [rule]

/-- An optional type annotation in the field `type`. -/
def annotated : Body := field "type" (opt (the "type_annotation"))

/-- Optional type arguments in their field. -/
def typeArguments : Body := field "type_arguments" (opt (the "type_arguments"))

/-- Optional type parameters in their field. -/
def typeParameters : Body := field "type_parameters" (opt (the "type_parameters"))

/-- The name of a property in its field. -/
def propertyName : Body := field "name" (the "_property_name")

/-- Any number of decorators. -/
def decorators : Body := many (field "decorator" (the "decorator"))

/-! ## Declarations and expressions -/

/-- What an expression may be in a dialect, after what it may be in JavaScript. -/
def typedExpression (dialect : Dialect) (base : Body) : Body :=
  let own := [the "as_expression", the "satisfies_expression", the "instantiation_expression",
    the "internal_module"]
  match dialect with
  | .plain => oneOf (own ++ [the "type_assertion"] ++
      base.alternatives.filter fun r => !(r == the "_jsx_element"))
  | .elements => oneOf (own ++ base.alternatives)

/-- Rules of JavaScript that take types, and the rules beside them. -/
def declarationRules (dialect : Dialect) (base : List (String × Body)) : List (String × Body) := [
  ("public_field_definition", seq [
    decorators,
    opt (oneOf [
      seq ["declare", opt (the "accessibility_modifier")],
      seq [the "accessibility_modifier", opt "declare"]]),
    oneOf [
      seq [opt "static", opt (the "override_modifier"), opt "readonly"],
      seq [opt "abstract", opt "readonly"],
      seq [opt "readonly", opt "abstract"],
      opt "accessor"],
    propertyName,
    opt (oneOf ["?", "!"]),
    annotated,
    opt (the "_initializer")]),
  ("catch_clause", seq [
    "catch",
    opt (seq [
      "(",
      field "parameter" (oneOf [the "identifier", the "_destructuring_pattern"]),
      opt (field "type" (the "type_annotation")),
      ")"]),
    field "body" (the "statement_block")]),
  ("call_expression", oneOf [
    prec (binds "call") (seq [
      field "function" (oneOf [the "expression", the "import"]),
      typeArguments,
      field "arguments" (the "arguments")]),
    prec (binds "template_call") (seq [
      field "function" (oneOf [the "primary_expression", the "new_expression"]),
      field "arguments" (the "template_string")]),
    prec (binds "member") (seq [
      field "function" (the "primary_expression"),
      "?.",
      typeArguments,
      field "arguments" (the "arguments")])]),
  ("new_expression", precRight (binds "new") (seq [
    "new",
    field "constructor" (the "primary_expression"),
    typeArguments,
    field "arguments" (opt (the "arguments"))])),
  ("assignment_expression", precRight (binds "assign") (seq [
    opt "using",
    field "left" (oneOf [the "parenthesized_expression", the "_lhs_expression"]),
    "=",
    field "right" (the "expression")])),
  ("_augmented_assignment_lhs",
    oneOf [bodyOf base "_augmented_assignment_lhs", the "non_null_expression"]),
  ("_lhs_expression", oneOf [bodyOf base "_lhs_expression", the "non_null_expression"]),
  ("primary_expression", oneOf [bodyOf base "primary_expression", the "non_null_expression"]),
  ("expression", typedExpression dialect (bodyOf base "expression")),
  ("_jsx_start_opening_element", seq [
    "<",
    opt (seq [
      oneOf [
        field "name" (oneOf [the "_jsx_identifier", the "jsx_namespace_name"]),
        seq [
          field "name" (oneOf [
            the "identifier", aliasAs "member_expression" (the "nested_identifier")]),
          typeArguments]],
      many (field "attribute" (the "_jsx_attribute"))])]),
  ("jsx_opening_element", dynamic (-1) (seq [the "_jsx_start_opening_element", ">"])),
  ("jsx_self_closing_element", dynamic (-1) (seq [the "_jsx_start_opening_element", "/>"])),
  ("export_specifier", seq [
    opt (oneOf ["type", "typeof"]), bodyOf base "export_specifier"]),
  ("_import_identifier", oneOf [the "identifier", aliasAs "identifier" "type"]),
  ("import_specifier", seq [
    opt (oneOf ["type", "typeof"]),
    oneOf [
      field "name" (the "_import_identifier"),
      seq [
        field "name" (oneOf [the "_module_export_name", aliasAs "identifier" "type"]),
        "as",
        field "alias" (the "_import_identifier")]]]),
  ("import_attribute", seq [oneOf ["with", "assert"], the "object"]),
  ("import_clause", oneOf [
    the "namespace_import",
    the "named_imports",
    seq [
      the "_import_identifier",
      opt (seq [",", oneOf [the "namespace_import", the "named_imports"]])]]),
  ("import_statement", seq [
    "import",
    opt (oneOf ["type", "typeof"]),
    oneOf [
      seq [the "import_clause", the "_from_clause"],
      the "import_require_clause",
      field "source" (the "string")],
    opt (the "import_attribute"),
    the "_semicolon"]),
  ("export_statement", oneOf [
    bodyOf base "export_statement",
    seq [
      "export", "type", the "export_clause", opt (the "_from_clause"), the "_semicolon"],
    seq ["export", "=", the "expression", the "_semicolon"],
    seq ["export", "as", "namespace", the "identifier", the "_semicolon"]]),
  ("non_null_expression", precLeft (binds "unary") (seq [the "expression", "!"])),
  ("variable_declarator", oneOf [
    seq [
      field "name" (oneOf [the "identifier", the "_destructuring_pattern"]),
      annotated,
      opt (the "_initializer")],
    prec (binds "declare") (seq [
      field "name" (the "identifier"), "!", field "type" (the "type_annotation")])]),
  ("method_signature", seq [
    opt (the "accessibility_modifier"),
    opt "static",
    opt (the "override_modifier"),
    opt "readonly",
    opt "async",
    opt (oneOf ["get", "set", "*"]),
    propertyName,
    opt "?",
    the "_call_signature"]),
  ("abstract_method_signature", seq [
    opt (the "accessibility_modifier"),
    "abstract",
    opt (the "override_modifier"),
    opt (oneOf ["get", "set", "*"]),
    propertyName,
    opt "?",
    the "_call_signature"]),
  ("parenthesized_expression", seq [
    "(",
    oneOf [seq [the "expression", annotated], the "sequence_expression"],
    ")"]),
  ("_formal_parameter", oneOf [the "required_parameter", the "optional_parameter"]),
  ("function_signature", seq [
    opt "async",
    "function",
    field "name" (the "identifier"),
    the "_call_signature",
    oneOf [the "_semicolon", the "_function_signature_automatic_semicolon"]]),
  ("decorator", seq [
    "@",
    oneOf [
      the "identifier",
      aliasAs "member_expression" (the "decorator_member_expression"),
      aliasAs "call_expression" (the "decorator_call_expression"),
      aliasAs "parenthesized_expression" (the "decorator_parenthesized_expression")]]),
  ("decorator_call_expression", prec (binds "call") (seq [
    field "function" (oneOf [
      the "identifier",
      aliasAs "member_expression" (the "decorator_member_expression")]),
    opt (field "type_arguments" (the "type_arguments")),
    field "arguments" (the "arguments")])),
  ("decorator_parenthesized_expression", seq [
    "(",
    oneOf [
      the "identifier",
      aliasAs "member_expression" (the "decorator_member_expression"),
      aliasAs "call_expression" (the "decorator_call_expression")],
    ")"]),
  ("class_body", seq [
    "\x7b",
    many (oneOf [
      seq [decorators, the "method_definition", opt (the "_semicolon")],
      seq [
        the "method_signature",
        oneOf [the "_function_signature_automatic_semicolon", ","]],
      the "class_static_block",
      seq [
        oneOf [
          the "abstract_method_signature",
          the "index_signature",
          the "method_signature",
          the "public_field_definition"],
        oneOf [the "_semicolon", ","]],
      ";"]),
    "\x7d"]),
  ("method_definition", left (seq [
    opt (the "accessibility_modifier"),
    opt "static",
    opt (the "override_modifier"),
    opt "readonly",
    opt "async",
    opt (oneOf ["get", "set", "*"]),
    propertyName,
    opt "?",
    the "_call_signature",
    field "body" (the "statement_block")])),
  ("declaration", oneOf [
    bodyOf base "declaration",
    the "function_signature",
    the "abstract_class_declaration",
    the "module",
    prec (binds "declare") (the "internal_module"),
    the "type_alias_declaration",
    the "enum_declaration",
    the "interface_declaration",
    the "import_alias",
    the "ambient_declaration"]),
  ("type_assertion", precLeft (binds "unary") (seq [
    the "type_arguments", the "expression"])),
  ("as_expression", precLeft (binds "binary") (seq [
    the "expression", "as", oneOf ["const", the "type"]])),
  ("satisfies_expression", precLeft (binds "binary") (seq [
    the "expression", "satisfies", the "type"])),
  ("instantiation_expression", prec (binds "instantiation") (seq [
    the "expression", field "type_arguments" (the "type_arguments")])),
  ("class_heritage", oneOf [
    seq [the "extends_clause", opt (the "implements_clause")],
    the "implements_clause"]),
  ("import_require_clause", seq [
    the "identifier", "=", "require", "(", field "source" (the "string"), ")"]),
  ("extends_clause", seq ["extends", commaSep1 (the "_extends_clause_single")]),
  ("_extends_clause_single", prec (binds "extends") (seq [
    field "value" (the "expression"), typeArguments])),
  ("implements_clause", seq ["implements", commaSep1 (the "type")]),
  ("ambient_declaration", seq [
    "declare",
    oneOf [
      the "declaration",
      seq ["global", the "statement_block"],
      seq [
        "module", ".", aliasAs "property_identifier" (the "identifier"), ":", the "type",
        the "_semicolon"]]]),
  ("class", prec (binds "literal") (seq [
    decorators,
    "class",
    field "name" (opt (the "_type_identifier")),
    typeParameters,
    opt (the "class_heritage"),
    field "body" (the "class_body")])),
  ("abstract_class_declaration", prec (binds "declare") (seq [
    decorators,
    "abstract",
    "class",
    field "name" (the "_type_identifier"),
    typeParameters,
    opt (the "class_heritage"),
    field "body" (the "class_body")])),
  ("class_declaration", precLeft (binds "declare") (seq [
    decorators,
    "class",
    field "name" (the "_type_identifier"),
    typeParameters,
    opt (the "class_heritage"),
    field "body" (the "class_body"),
    opt (the "_automatic_semicolon")])),
  ("module", seq ["module", the "_module"]),
  ("internal_module", seq ["namespace", the "_module"]),
  ("_module", right (seq [
    field "name" (oneOf [the "string", the "identifier", the "nested_identifier"]),
    field "body" (opt (the "statement_block"))])),
  ("import_alias", seq [
    "import",
    the "identifier",
    "=",
    oneOf [the "identifier", the "nested_identifier"],
    the "_semicolon"]),
  ("nested_type_identifier", prec (binds "member") (seq [
    field "module" (oneOf [the "identifier", the "nested_identifier"]),
    ".",
    field "name" (the "_type_identifier")])),
  ("interface_declaration", prec (binds "declare") (seq [
    "interface",
    field "name" (the "_type_identifier"),
    typeParameters,
    opt (the "extends_type_clause"),
    field "body" (aliasAs "interface_body" (the "object_type"))])),
  ("extends_type_clause", seq [
    "extends",
    commaSep1 (field "type" (oneOf [
      the "_type_identifier", the "nested_type_identifier", the "generic_type"]))]),
  ("enum_declaration", seq [
    opt "const",
    "enum",
    field "name" (the "identifier"),
    field "body" (the "enum_body")]),
  ("enum_body", seq [
    "\x7b",
    opt (seq [
      commaSep1 (oneOf [propertyName, the "enum_assignment"]),
      opt ","]),
    "\x7d"]),
  ("enum_assignment", seq [propertyName, the "_initializer"]),
  ("type_alias_declaration", seq [
    "type",
    field "name" (the "_type_identifier"),
    typeParameters,
    "=",
    field "value" (the "type"),
    the "_semicolon"]),
  ("accessibility_modifier", oneOf ["public", "private", "protected"]),
  ("override_modifier", text "override"),
  ("required_parameter", seq [
    the "_parameter_name", annotated, opt (the "_initializer")]),
  ("optional_parameter", seq [
    the "_parameter_name", "?", annotated, opt (the "_initializer")]),
  ("_parameter_name", seq [
    decorators,
    opt (the "accessibility_modifier"),
    opt (the "override_modifier"),
    opt "readonly",
    field "pattern" (oneOf [the "pattern", the "this"])])]

/-! ## Types -/

/-- A member expression of a type query with that object. -/
def queryMember (objects : List Body) (dot : Body) : Body := seq [
  field "object" (oneOf objects),
  dot,
  field "property" (oneOf [
    the "private_property_identifier",
    aliasAs "property_identifier" (the "identifier")])]

/-- The member, subscript and call expressions of a type query. -/
def queryParts : List Body := [
  aliasAs "subscript_expression" (the "_type_query_subscript_expression"),
  aliasAs "member_expression" (the "_type_query_member_expression"),
  aliasAs "call_expression" (the "_type_query_call_expression")]

/-- The member and call expressions of an annotation by an imported type. -/
def importedMember : Body :=
  aliasAs "member_expression" (the "_type_query_member_expression_in_type_annotation")

/-- The call expression of an annotation by an imported type. -/
def importedCall : Body :=
  aliasAs "call_expression" (the "_type_query_call_expression_in_type_annotation")

/-- Types and signatures. -/
def typeRules : List (String × Body) := [
  ("omitting_type_annotation", seq ["-?:", the "type"]),
  ("adding_type_annotation", seq ["+?:", the "type"]),
  ("opting_type_annotation", seq ["?:", the "type"]),
  ("type_annotation", seq [":", oneOf [the "type", importedMember, importedCall]]),
  ("_type_query_member_expression_in_type_annotation",
    queryMember [the "import", importedMember, importedCall] "."),
  ("_type_query_call_expression_in_type_annotation", seq [
    field "function" (oneOf [the "import", importedMember]),
    field "arguments" (the "arguments")]),
  ("asserts", seq [
    "asserts", oneOf [the "type_predicate", the "identifier", the "this"]]),
  ("asserts_annotation", seq [seq [":", the "asserts"]]),
  ("type", oneOf [
    the "primary_type",
    the "function_type",
    the "readonly_type",
    the "constructor_type",
    the "infer_type",
    prec (.level (-1)) importedMember,
    prec (.level (-1)) importedCall]),
  ("tuple_parameter", seq [
    field "name" (oneOf [the "identifier", the "rest_pattern"]),
    field "type" (the "type_annotation")]),
  ("optional_tuple_parameter", seq [
    field "name" (the "identifier"), "?", field "type" (the "type_annotation")]),
  ("optional_type", seq [the "type", "?"]),
  ("rest_type", seq ["...", the "type"]),
  ("_tuple_type_member", oneOf [
    aliasAs "required_parameter" (the "tuple_parameter"),
    aliasAs "optional_parameter" (the "optional_tuple_parameter"),
    the "optional_type",
    the "rest_type",
    the "type"]),
  ("constructor_type", left (seq [
    opt "abstract",
    "new",
    typeParameters,
    field "parameters" (the "formal_parameters"),
    "=>",
    field "type" (the "type")])),
  ("primary_type", oneOf [
    the "parenthesized_type",
    the "predefined_type",
    the "_type_identifier",
    the "nested_type_identifier",
    the "generic_type",
    the "object_type",
    the "array_type",
    the "tuple_type",
    the "flow_maybe_type",
    the "type_query",
    the "index_type_query",
    aliasAs "this_type" (the "this"),
    the "existential_type",
    the "literal_type",
    the "lookup_type",
    the "conditional_type",
    the "template_literal_type",
    the "intersection_type",
    the "union_type",
    "const"]),
  ("template_type", seq ["$\x7b", oneOf [the "primary_type", the "infer_type"], "\x7d"]),
  ("template_literal_type", seq [
    "`",
    many (oneOf [
      aliasAs "string_fragment" (the "_template_chars"), the "template_type"]),
    "`"]),
  ("infer_type", right (seq [
    "infer", the "_type_identifier", opt (seq ["extends", the "type"])])),
  ("conditional_type", right (seq [
    field "left" (the "type"),
    "extends",
    field "right" (the "type"),
    "?",
    field "consequence" (the "type"),
    ":",
    field "alternative" (the "type")])),
  ("generic_type", prec (binds "call") (seq [
    field "name" (oneOf [the "_type_identifier", the "nested_type_identifier"]),
    field "type_arguments" (the "type_arguments")])),
  ("type_predicate", seq [
    field "name" (oneOf [
      the "identifier", the "this", aliasAs "identifier" (the "predefined_type")]),
    "is",
    field "type" (the "type")]),
  ("type_predicate_annotation", seq [seq [":", the "type_predicate"]]),
  ("_type_query_member_expression",
    queryMember ([the "identifier", the "this"] ++ queryParts) (oneOf [".", "?."])),
  ("_type_query_subscript_expression", seq [
    field "object" (oneOf ([the "identifier", the "this"] ++ queryParts)),
    opt "?.",
    "[",
    field "index" (oneOf [the "predefined_type", the "string", the "number"]),
    "]"]),
  ("_type_query_call_expression", seq [
    field "function" (oneOf [
      the "import",
      the "identifier",
      aliasAs "member_expression" (the "_type_query_member_expression"),
      aliasAs "subscript_expression" (the "_type_query_subscript_expression")]),
    field "arguments" (the "arguments")]),
  ("_type_query_instantiation_expression", seq [
    field "function" (oneOf [
      the "import",
      the "identifier",
      aliasAs "member_expression" (the "_type_query_member_expression"),
      aliasAs "subscript_expression" (the "_type_query_subscript_expression")]),
    field "type_arguments" (the "type_arguments")]),
  ("type_query", right (seq [
    "typeof",
    oneOf (queryParts ++ [
      aliasAs "instantiation_expression" (the "_type_query_instantiation_expression"),
      the "identifier",
      the "this"])])),
  ("index_type_query", seq ["keyof", the "primary_type"]),
  ("lookup_type", seq [the "primary_type", "[", the "type", "]"]),
  ("mapped_type_clause", seq [
    field "name" (the "_type_identifier"),
    "in",
    field "type" (the "type"),
    opt (seq ["as", field "alias" (the "type")])]),
  ("literal_type", oneOf [
    aliasAs "unary_expression" (the "_number"),
    the "number",
    the "string",
    the "true",
    the "false",
    the "null",
    the "undefined"]),
  ("_number", precLeft (.level 1) (seq [
    field "operator" (oneOf ["-", "+"]), field "argument" (the "number")])),
  ("existential_type", text "*"),
  ("flow_maybe_type", right (seq ["?", the "primary_type"])),
  ("parenthesized_type", seq ["(", the "type", ")"]),
  ("predefined_type", oneOf [
    "any",
    "number",
    "boolean",
    "string",
    "symbol",
    aliasText "unique symbol" (seq ["unique", "symbol"]),
    "void",
    "unknown",
    "string",
    "never",
    "object"]),
  ("type_arguments", seq ["<", commaSep1 (the "type"), opt ",", ">"]),
  ("object_type", seq [
    oneOf ["\x7b", "\x7b|"],
    opt (seq [
      opt (oneOf [",", ";"]),
      sepBy1 (oneOf [",", the "_semicolon"]) (oneOf [
        the "export_statement",
        the "property_signature",
        the "call_signature",
        the "construct_signature",
        the "index_signature",
        the "method_signature"]),
      opt (oneOf [",", the "_semicolon"])]),
    oneOf ["\x7d", "|\x7d"]]),
  ("call_signature", the "_call_signature"),
  ("property_signature", seq [
    opt (the "accessibility_modifier"),
    opt "static",
    opt (the "override_modifier"),
    opt "readonly",
    propertyName,
    opt "?",
    annotated]),
  ("_call_signature", seq [
    typeParameters,
    field "parameters" (the "formal_parameters"),
    field "return_type" (opt (oneOf [
      the "type_annotation", the "asserts_annotation", the "type_predicate_annotation"]))]),
  ("type_parameters", seq ["<", commaSep1 (the "type_parameter"), opt ",", ">"]),
  ("type_parameter", seq [
    opt "const",
    field "name" (the "_type_identifier"),
    field "constraint" (opt (the "constraint")),
    field "value" (opt (the "default_type"))]),
  ("default_type", seq ["=", the "type"]),
  ("constraint", seq [oneOf ["extends", ":"], the "type"]),
  ("construct_signature", seq [
    opt "abstract",
    "new",
    typeParameters,
    field "parameters" (the "formal_parameters"),
    annotated]),
  ("index_signature", seq [
    opt (seq [field "sign" (opt (oneOf ["-", "+"])), "readonly"]),
    "[",
    oneOf [
      seq [
        field "name" (oneOf [
          the "identifier", aliasAs "identifier" (the "_reserved_identifier")]),
        ":",
        field "index_type" (the "type")],
      the "mapped_type_clause"],
    "]",
    field "type" (oneOf [
      the "type_annotation",
      the "omitting_type_annotation",
      the "adding_type_annotation",
      the "opting_type_annotation"])]),
  ("array_type", seq [the "primary_type", "[", "]"]),
  ("tuple_type", seq ["[", commaSep (the "_tuple_type_member"), opt ",", "]"]),
  ("readonly_type", seq ["readonly", the "type"]),
  ("union_type", left (seq [opt (the "type"), "|", the "type"])),
  ("intersection_type", left (seq [opt (the "type"), "&", the "type"])),
  ("function_type", left (seq [
    typeParameters,
    field "parameters" (the "formal_parameters"),
    "=>",
    field "return_type" (oneOf [the "type", the "asserts", the "type_predicate"])])),
  ("_type_identifier", aliasAs "type_identifier" (the "identifier")),
  ("_reserved_identifier", oneOf [
    "declare", "namespace", "type", "public", "private", "protected", "override", "readonly",
    "module", "any", "number", "boolean", "string", "symbol", "export", "object", "new",
    "readonly", reservedWords])]

/-! ## The grammar -/

/-- The precedence orders that types add. -/
def typedPrecedences : List (List PrecEntry) := [
  order ["call", "instantiation", "unary", "binary", "$await_expression", "$arrow_function"],
  order ["extends", "instantiation"],
  order ["$intersection_type", "$union_type", "$conditional_type", "$function_type", "binary",
    "$type_predicate", "$readonly_type"],
  order ["$mapped_type_clause", "$primary_expression"],
  order ["$accessibility_modifier", "$primary_expression"],
  order ["unary_void", "$expression"],
  order ["$extends_clause", "$primary_expression"],
  order ["unary", "assign"],
  order ["declare", "$expression"],
  order ["$predefined_type", "$unary_expression"],
  order ["$type", "$flow_maybe_type"],
  order ["$tuple_type", "$array_type", "$pattern", "$type"],
  order ["$readonly_type", "$pattern"],
  order ["$readonly_type", "$primary_expression"],
  order ["$type_query", "$subscript_expression", "$expression"],
  order ["$type_query", "$_type_query_subscript_expression"],
  order ["$nested_type_identifier", "$generic_type", "$primary_type", "$lookup_type",
    "$index_type_query", "$type"],
  order ["$as_expression", "$satisfies_expression", "$primary_type"],
  order ["$_type_query_member_expression", "$member_expression"],
  order ["$member_expression", "$_type_query_member_expression_in_type_annotation"],
  order ["$_type_query_member_expression", "$primary_expression"],
  order ["$_type_query_subscript_expression", "$subscript_expression"],
  order ["$_type_query_subscript_expression", "$primary_expression"],
  order ["$_type_query_call_expression", "$primary_expression"],
  order ["$_type_query_instantiation_expression", "$primary_expression"],
  order ["$type_query", "$primary_expression"],
  order ["$override_modifier", "$primary_expression"],
  order ["$decorator_call_expression", "$decorator"],
  order ["$literal_type", "$pattern"],
  order ["$predefined_type", "$pattern"],
  order ["$call_expression", "$_type_query_call_expression"],
  order ["$call_expression", "$_type_query_call_expression_in_type_annotation"],
  order ["$new_expression", "$primary_expression"],
  order ["$meta_property", "$primary_expression"],
  order ["$construct_signature", "$_property_name"]]

/-- The grammar of a dialect. -/
def typedGrammar (dialect : Dialect) : RuleSet :=
  { ecmaGrammar with
    rules := (declarationRules dialect ecmaGrammar.rules ++ typeRules).foldl setRule
      ecmaGrammar.rules
    externals := ecmaExternals ++
      [the "_function_signature_automatic_semicolon", the "__error_recovery"]
    inlined := ecmaGrammar.inlined.filter
      (fun n => n != "_formal_parameter" && n != "_call_signature") ++
      ["_type_identifier", "_jsx_start_opening_element"]
    supertypes := ecmaGrammar.supertypes ++ ["type", "primary_type"]
    precedences := ecmaPrecedences ++ typedPrecedences }

end TestLocator.Script
