import ChangeGraph.Script.JavaScript

/-! # The grammar of TypeScript

The grammar of JavaScript with type annotations, signatures and the declarations that exist only for types. Texts with
tags and texts without are two grammars: where tags are allowed, a type in angle brackets cannot be an assertion. -/

namespace ChangeGraph.Script.TypeScript

open ChangeGraph.Grammar
open ChangeGraph.Grammar.Rule
open ChangeGraph.Script.JavaScript (Rules)

/-- Replaces rules in place and puts new ones at the end. -/
def override (base changes : Rules) : Rules :=
  base.map (fun (name, r) => (name, (changes.lookup name).getD r)) ++
    changes.filter fun (name, _) => (base.lookup name).isNone

/-- The alternatives of a rule of the base grammar, with more of them. -/
def extended (name : String) (more : List Rule) : Rule :=
  oneOf ([(JavaScript.rules.lookup name).getD .blank] ++ more)

def typeName : Rule := as "type_identifier" (n "identifier")

def typeParams : Rule := .field "type_parameters" (opt (n "type_parameters"))

def typeArgs : Rule := .field "type_arguments" (opt (n "type_arguments"))

def typed : Rule := .field "type" (opt (n "type_annotation"))

def decorators : Rule := many (.field "decorator" (n "decorator"))

def accessor : Rule := opt (oneOf [t "get", t "set", t "*"])

def bindingName : Rule := oneOf [n "identifier", n "_destructuring_pattern"]

/-! ### Changed rules -/

def changedMembers : Rules := [
  ("public_field_definition", seqs [
    decorators,
    opt (oneOf [
      seqs [t "declare", opt (n "accessibility_modifier")],
      seqs [n "accessibility_modifier", opt (t "declare")]]),
    oneOf [
      seqs [opt (t "static"), opt (n "override_modifier"), opt (t "readonly")],
      seqs [opt (t "abstract"), opt (t "readonly")],
      seqs [opt (t "readonly"), opt (t "abstract")],
      opt (t "accessor")],
    .field "name" (n "_property_name"), opt (oneOf [t "?", t "!"]), typed, opt (n "_initializer")]),
  ("catch_clause", seqs [
    t "catch",
    opt (seqs [t "(", .field "parameter" bindingName, opt (.field "type" (n "type_annotation")), t ")"]),
    .field "body" (n "statement_block")]),
  ("call_expression", oneOf [
    binds "call" (seqs [
      .field "function" (oneOf [n "expression", n "import"]), typeArgs, .field "arguments" (n "arguments")]),
    binds "template_call" (seqs [
      .field "function" (oneOf [n "primary_expression", n "new_expression"]),
      .field "arguments" (n "template_string")]),
    binds "member" (seqs [
      .field "function" (n "primary_expression"), t "?.", typeArgs, .field "arguments" (n "arguments")])]),
  ("new_expression", bindsRight "new" (seqs [
    t "new", .field "constructor" (n "primary_expression"), typeArgs,
    .field "arguments" (opt (n "arguments"))])),
  ("assignment_expression", bindsRight "assign" (seqs [
    opt (t "using"), .field "left" (oneOf [n "parenthesized_expression", n "_lhs_expression"]), t "=",
    .field "right" (n "expression")])),
  ("_augmented_assignment_lhs", extended "_augmented_assignment_lhs" [n "non_null_expression"]),
  ("_lhs_expression", extended "_lhs_expression" [n "non_null_expression"]),
  ("primary_expression", extended "primary_expression" [n "non_null_expression"])]

/-- Forms of expressions that only types bring, then those of the base grammar. -/
def expressionForms (withTags : Bool) : Rule :=
  oneOf ([n "as_expression", n "satisfies_expression", n "instantiation_expression", n "internal_module"] ++
    (if withTags then [] else [n "type_assertion"]) ++
    [n "primary_expression"] ++ (if withTags then [n "_jsx_element"] else []) ++
    [n "assignment_expression", n "augmented_assignment_expression", n "await_expression", n "unary_expression",
      n "binary_expression", n "ternary_expression", n "update_expression", n "new_expression",
      n "yield_expression"])

def changedTags : Rules := [
  ("_jsx_start_opening_element", seqs [
    t "<",
    opt (seqs [
      oneOf [
        .field "name" (oneOf [n "_jsx_identifier", n "jsx_namespace_name"]),
        seqs [
          .field "name" (oneOf [n "identifier", as "member_expression" (n "nested_identifier")]), typeArgs]],
      many (.field "attribute" (n "_jsx_attribute"))])]),
  ("jsx_opening_element", .weight (-1) (seqs [n "_jsx_start_opening_element", t ">"])),
  ("jsx_self_closing_element", .weight (-1) (seqs [n "_jsx_start_opening_element", t "/>"]))]

def changedModules : Rules := [
  ("export_specifier", seqs [
    opt (oneOf [t "type", t "typeof"]),
    seqs [.field "name" (n "_module_export_name"),
      opt (seqs [t "as", .field "alias" (n "_module_export_name")])]]),
  ("_import_identifier", oneOf [n "identifier", as "identifier" (t "type")]),
  ("import_specifier", seqs [
    opt (oneOf [t "type", t "typeof"]),
    oneOf [
      .field "name" (n "_import_identifier"),
      seqs [.field "name" (oneOf [n "_module_export_name", as "identifier" (t "type")]), t "as",
        .field "alias" (n "_import_identifier")]]]),
  ("import_clause", oneOf [
    n "namespace_import", n "named_imports",
    seqs [n "_import_identifier", opt (seqs [t ",", oneOf [n "namespace_import", n "named_imports"]])]]),
  ("import_statement", seqs [
    t "import", opt (oneOf [t "type", t "typeof"]),
    oneOf [seqs [n "import_clause", n "_from_clause"], n "import_require_clause", .field "source" (n "string")],
    opt (n "import_attribute"), n "_semicolon"]),
  ("export_statement", extended "export_statement" [
    seqs [t "export", t "type", n "export_clause", opt (n "_from_clause"), n "_semicolon"],
    seqs [t "export", t "import", n "import_alias"],
    seqs [t "export", t "=", n "expression", n "_semicolon"],
    seqs [t "export", t "as", t "namespace", n "identifier", n "_semicolon"]]),
  ("non_null_expression", bindsLeft "unary" (seqs [n "expression", t "!"])),
  ("variable_declarator", oneOf [
    seqs [.field "name" bindingName, typed, opt (n "_initializer")],
    binds "declare" (seqs [.field "name" (n "identifier"), t "!", .field "type" (n "type_annotation")])])]

def changedClasses : Rules := [
  ("method_signature", seqs [
    opt (n "accessibility_modifier"), opt (t "static"), opt (n "override_modifier"), opt (t "readonly"),
    opt (t "async"), accessor, .field "name" (n "_property_name"), opt (t "?"), n "_call_signature"]),
  ("abstract_method_signature", seqs [
    opt (n "accessibility_modifier"), t "abstract", opt (n "override_modifier"), accessor,
    .field "name" (n "_property_name"), opt (t "?"), n "_call_signature"]),
  ("parenthesized_expression", seqs [
    t "(", oneOf [seqs [n "expression", typed], n "sequence_expression"], t ")"]),
  ("_formal_parameter", oneOf [n "required_parameter", n "optional_parameter"]),
  ("function_signature", seqs [
    opt (t "async"), t "function", .field "name" (n "identifier"), n "_call_signature",
    oneOf [n "_semicolon", n "_function_signature_automatic_semicolon"]]),
  ("decorator", seqs [t "@", oneOf [
    n "identifier", as "member_expression" (n "decorator_member_expression"),
    as "call_expression" (n "decorator_call_expression"),
    as "parenthesized_expression" (n "decorator_parenthesized_expression")]]),
  ("decorator_call_expression", binds "call" (seqs [
    .field "function" (oneOf [n "identifier", as "member_expression" (n "decorator_member_expression")]),
    typeArgs, .field "arguments" (n "arguments")])),
  ("decorator_parenthesized_expression", seqs [
    t "(",
    oneOf [
      n "identifier", as "member_expression" (n "decorator_member_expression"),
      as "call_expression" (n "decorator_call_expression")],
    t ")"]),
  ("class_body", seqs [
    t "\x7b",
    many (oneOf [
      .field "decorator" (n "decorator"),
      seqs [n "method_definition", opt (n "_semicolon")],
      seqs [n "method_signature", oneOf [n "_function_signature_automatic_semicolon", t ","]],
      n "class_static_block",
      seqs [
        oneOf [n "abstract_method_signature", n "index_signature", n "method_signature", n "public_field_definition"],
        oneOf [n "_semicolon", t ","]],
      t ";"]),
    t "\x7d"]),
  ("method_definition", leftward (seqs [
    opt (n "accessibility_modifier"), opt (t "static"), opt (n "override_modifier"), opt (t "readonly"),
    opt (t "async"), accessor, .field "name" (n "_property_name"), opt (t "?"), n "_call_signature",
    .field "body" (n "statement_block")])),
  ("declaration", oneOf [
    n "function_declaration", n "generator_function_declaration", n "class_declaration", n "lexical_declaration",
    n "variable_declaration", n "function_signature", n "abstract_class_declaration", n "module",
    binds "declare" (n "internal_module"), n "type_alias_declaration", n "enum_declaration",
    n "interface_declaration", n "import_alias", n "ambient_declaration"]),
  ("type_assertion", bindsLeft "unary" (seqs [n "type_arguments", n "expression"])),
  ("as_expression", bindsLeft "binary" (seqs [n "expression", t "as", oneOf [t "const", n "type"]])),
  ("satisfies_expression", bindsLeft "binary" (seqs [n "expression", t "satisfies", n "type"])),
  ("instantiation_expression", binds "instantiation" (seqs [
    n "expression", .field "type_arguments" (n "type_arguments")])),
  ("class_heritage", oneOf [
    seqs [n "extends_clause", opt (n "implements_clause")], n "implements_clause"]),
  ("import_require_clause", seqs [
    n "identifier", t "=", t "require", t "(", .field "source" (n "string"), t ")"]),
  ("extends_clause", seqs [t "extends", commaSep1 (n "_extends_clause_single")]),
  ("_extends_clause_single", binds "extends" (seqs [.field "value" (n "expression"), typeArgs])),
  ("implements_clause", seqs [t "implements", commaSep1 (n "type")]),
  ("ambient_declaration", seqs [
    t "declare",
    oneOf [
      n "declaration",
      seqs [t "global", n "statement_block"],
      seqs [t "module", t ".", as "property_identifier" (n "identifier"), t ":", n "type", n "_semicolon"]]]),
  ("class", binds "literal" (seqs [
    decorators, t "class", .field "name" (opt (n "_type_identifier")), typeParams, opt (n "class_heritage"),
    .field "body" (n "class_body")])),
  ("abstract_class_declaration", binds "declare" (seqs [
    decorators, t "abstract", t "class", .field "name" (n "_type_identifier"), typeParams,
    opt (n "class_heritage"), .field "body" (n "class_body")])),
  ("class_declaration", bindsLeft "declare" (seqs [
    decorators, t "class", .field "name" (n "_type_identifier"), typeParams, opt (n "class_heritage"),
    .field "body" (n "class_body"), opt (n "_automatic_semicolon")]))]

/-! ### New rules -/

def declarations : Rules := [
  ("module", seqs [t "module", n "_module"]),
  ("internal_module", seqs [t "namespace", n "_module"]),
  ("_module", rightward (seqs [
    .field "name" (oneOf [n "string", n "identifier", n "nested_identifier"]),
    .field "body" (opt (n "statement_block"))])),
  ("import_alias", seqs [
    t "import", n "identifier", t "=", oneOf [n "identifier", n "nested_identifier"], n "_semicolon"]),
  ("nested_type_identifier", binds "member" (seqs [
    .field "module" (oneOf [n "identifier", n "nested_identifier"]), t ".",
    .field "name" (n "_type_identifier")])),
  ("interface_declaration", seqs [
    t "interface", .field "name" (n "_type_identifier"), typeParams, opt (n "extends_type_clause"),
    .field "body" (as "interface_body" (n "object_type"))]),
  ("extends_type_clause", seqs [
    t "extends",
    commaSep1 (.field "type" (oneOf [n "_type_identifier", n "nested_type_identifier", n "generic_type"]))]),
  ("enum_declaration", seqs [
    opt (t "const"), t "enum", .field "name" (n "identifier"), .field "body" (n "enum_body")]),
  ("enum_body", seqs [
    t "\x7b",
    opt (seqs [
      sepBy1 (t ",") (oneOf [.field "name" (n "_property_name"), n "enum_assignment"]), opt (t ",")]),
    t "\x7d"]),
  ("enum_assignment", seqs [.field "name" (n "_property_name"), n "_initializer"]),
  ("type_alias_declaration", seqs [
    t "type", .field "name" (n "_type_identifier"), typeParams, t "=", .field "value" (n "type"), n "_semicolon"]),
  ("accessibility_modifier", oneOf [t "public", t "private", t "protected"]),
  ("override_modifier", t "override"),
  ("required_parameter", seqs [n "_parameter_name", typed, opt (n "_initializer")]),
  ("optional_parameter", seqs [n "_parameter_name", t "?", typed, opt (n "_initializer")]),
  ("_parameter_name", seqs [
    decorators, opt (n "accessibility_modifier"), opt (n "override_modifier"), opt (t "readonly"),
    .field "pattern" (oneOf [n "pattern", n "this"])]),
  ("omitting_type_annotation", seqs [t "-?:", n "type"]),
  ("adding_type_annotation", seqs [t "+?:", n "type"]),
  ("opting_type_annotation", seqs [t "?:", n "type"]),
  ("type_annotation", seqs [
    t ":",
    oneOf [
      n "type",
      as "member_expression" (n "_type_query_member_expression_in_type_annotation"),
      as "call_expression" (n "_type_query_call_expression_in_type_annotation")]]),
  ("_type_query_member_expression_in_type_annotation", seqs [
    .field "object" (oneOf [
      n "import",
      as "member_expression" (n "_type_query_member_expression_in_type_annotation"),
      as "call_expression" (n "_type_query_call_expression_in_type_annotation")]),
    t ".",
    .field "property" (oneOf [n "private_property_identifier", as "property_identifier" (n "identifier")])]),
  ("_type_query_call_expression_in_type_annotation", seqs [
    .field "function" (oneOf [
      n "import", as "member_expression" (n "_type_query_member_expression_in_type_annotation")]),
    .field "arguments" (n "arguments")]),
  ("asserts", seqs [t "asserts", oneOf [n "type_predicate", n "identifier", n "this"]]),
  ("asserts_annotation", seqs [t ":", n "asserts"])]

/-- What a type query may name before its last part. -/
def queried : List Rule := [
  n "identifier", n "this", as "subscript_expression" (n "_type_query_subscript_expression"),
  as "member_expression" (n "_type_query_member_expression"), as "call_expression" (n "_type_query_call_expression")]

def queriedCallee : Rule := oneOf [
  n "import", n "identifier", as "member_expression" (n "_type_query_member_expression"),
  as "subscript_expression" (n "_type_query_subscript_expression")]

def types : Rules := [
  ("type", oneOf [
    n "primary_type", n "function_type", n "readonly_type", n "constructor_type", n "infer_type",
    .strength (.level (-1)) none (as "member_expression" (n "_type_query_member_expression_in_type_annotation")),
    .strength (.level (-1)) none (as "call_expression" (n "_type_query_call_expression_in_type_annotation"))]),
  ("tuple_parameter", seqs [
    .field "name" (oneOf [n "identifier", n "rest_pattern"]), .field "type" (n "type_annotation")]),
  ("optional_tuple_parameter", seqs [
    .field "name" (n "identifier"), t "?", .field "type" (n "type_annotation")]),
  ("optional_type", seqs [n "type", t "?"]),
  ("rest_type", seqs [t "...", n "type"]),
  ("_tuple_type_member", oneOf [
    as "required_parameter" (n "tuple_parameter"), as "optional_parameter" (n "optional_tuple_parameter"),
    n "optional_type", n "rest_type", n "type"]),
  ("constructor_type", leftward (seqs [
    opt (t "abstract"), t "new", typeParams, .field "parameters" (n "formal_parameters"), t "=>",
    .field "type" (n "type")])),
  ("primary_type", oneOf [
    n "parenthesized_type", n "predefined_type", n "_type_identifier", n "nested_type_identifier",
    n "generic_type", n "object_type", n "array_type", n "tuple_type", n "flow_maybe_type", n "type_query",
    n "index_type_query", as "this_type" (n "this"), n "existential_type", n "literal_type", n "lookup_type",
    n "conditional_type", n "template_literal_type", n "intersection_type", n "union_type", t "const"]),
  ("template_type", seqs [t "$\x7b", oneOf [n "primary_type", n "infer_type"], t "\x7d"]),
  ("template_literal_type", seqs [
    t "`", many (oneOf [as "string_fragment" (n "_template_chars"), n "template_type"]), t "`"]),
  ("infer_type", rightward (seqs [t "infer", n "_type_identifier", opt (seqs [t "extends", n "type"])])),
  ("conditional_type", rightward (seqs [
    .field "left" (n "type"), t "extends", .field "right" (n "type"), t "?",
    .field "consequence" (n "type"), t ":", .field "alternative" (n "type")])),
  ("generic_type", binds "call" (seqs [
    .field "name" (oneOf [n "_type_identifier", n "nested_type_identifier"]),
    .field "type_arguments" (n "type_arguments")])),
  ("type_predicate", seqs [
    .field "name" (oneOf [n "identifier", n "this", as "identifier" (n "predefined_type")]), t "is",
    .field "type" (n "type")]),
  ("type_predicate_annotation", seqs [t ":", n "type_predicate"]),
  ("_type_query_member_expression", seqs [
    .field "object" (oneOf queried), oneOf [t ".", t "?."],
    .field "property" (oneOf [n "private_property_identifier", as "property_identifier" (n "identifier")])]),
  ("_type_query_subscript_expression", seqs [
    .field "object" (oneOf queried), opt (t "?."), t "[",
    .field "index" (oneOf [n "predefined_type", n "string", n "number"]), t "]"]),
  ("_type_query_call_expression", seqs [
    .field "function" queriedCallee, .field "arguments" (n "arguments")]),
  ("_type_query_instantiation_expression", seqs [
    .field "function" queriedCallee, .field "type_arguments" (n "type_arguments")]),
  ("type_query", rightward (seqs [
    t "typeof",
    oneOf [
      as "subscript_expression" (n "_type_query_subscript_expression"),
      as "member_expression" (n "_type_query_member_expression"),
      as "call_expression" (n "_type_query_call_expression"),
      as "instantiation_expression" (n "_type_query_instantiation_expression"),
      n "identifier", n "this"]])),
  ("index_type_query", seqs [t "keyof", n "primary_type"]),
  ("lookup_type", seqs [n "primary_type", t "[", n "type", t "]"]),
  ("mapped_type_clause", seqs [
    .field "name" (n "_type_identifier"), t "in", .field "type" (n "type"),
    opt (seqs [t "as", .field "alias" (n "type")])]),
  ("literal_type", oneOf [
    as "unary_expression" (n "_number"), n "number", n "string", n "true", n "false", n "null", n "undefined"]),
  ("_number", .strength (.level 1) (some .left) (seqs [
    .field "operator" (oneOf [t "-", t "+"]), .field "argument" (n "number")])),
  ("existential_type", t "*"),
  ("flow_maybe_type", rightward (seqs [t "?", n "primary_type"])),
  ("parenthesized_type", seqs [t "(", n "type", t ")"]),
  ("predefined_type", oneOf [
    t "any", t "number", t "boolean", t "string", t "symbol",
    asText "unique symbol" (seqs [t "unique", t "symbol"]), t "void", t "unknown", t "string", t "never",
    t "object"]),
  ("type_arguments", seqs [t "<", commaSep1 (n "type"), opt (t ","), t ">"]),
  ("object_type", seqs [
    oneOf [t "\x7b", t "\x7b|"],
    opt (seqs [
      opt (oneOf [t ",", t ";"]),
      sepBy1 (oneOf [t ",", n "_semicolon"]) (oneOf [
        n "export_statement", n "property_signature", n "call_signature", n "construct_signature",
        n "index_signature", n "method_signature"]),
      opt (oneOf [t ",", n "_semicolon"])]),
    oneOf [t "\x7d", t "|\x7d"]]),
  ("call_signature", n "_call_signature"),
  ("property_signature", seqs [
    opt (n "accessibility_modifier"), opt (t "static"), opt (n "override_modifier"), opt (t "readonly"),
    .field "name" (n "_property_name"), opt (t "?"), typed]),
  ("_call_signature", seqs [
    typeParams, .field "parameters" (n "formal_parameters"),
    .field "return_type" (opt (oneOf [
      n "type_annotation", n "asserts_annotation", n "type_predicate_annotation"]))]),
  ("type_parameters", seqs [t "<", commaSep1 (n "type_parameter"), opt (t ","), t ">"]),
  ("type_parameter", seqs [
    opt (t "const"), .field "name" (n "_type_identifier"), .field "constraint" (opt (n "constraint")),
    .field "value" (opt (n "default_type"))]),
  ("default_type", seqs [t "=", n "type"]),
  ("constraint", seqs [oneOf [t "extends", t ":"], n "type"]),
  ("construct_signature", seqs [
    opt (t "abstract"), t "new", typeParams, .field "parameters" (n "formal_parameters"), typed]),
  ("index_signature", seqs [
    opt (seqs [.field "sign" (opt (oneOf [t "-", t "+"])), t "readonly"]),
    t "[",
    oneOf [
      seqs [
        .field "name" (oneOf [n "identifier", as "identifier" (n "_reserved_identifier")]), t ":",
        .field "index_type" (n "type")],
      n "mapped_type_clause"],
    t "]",
    .field "type" (oneOf [
      n "type_annotation", n "omitting_type_annotation", n "adding_type_annotation",
      n "opting_type_annotation"])]),
  ("array_type", seqs [n "primary_type", t "[", t "]"]),
  ("tuple_type", seqs [t "[", commaSep (n "_tuple_type_member"), opt (t ","), t "]"]),
  ("readonly_type", seqs [t "readonly", n "type"]),
  ("union_type", leftward (seqs [opt (n "type"), t "|", n "type"])),
  ("intersection_type", leftward (seqs [opt (n "type"), t "&", n "type"])),
  ("function_type", leftward (seqs [
    typeParams, .field "parameters" (n "formal_parameters"), t "=>",
    .field "return_type" (oneOf [n "type", n "asserts", n "type_predicate"])])),
  ("_type_identifier", typeName),
  ("_reserved_identifier", oneOf (["declare", "namespace", "type", "public", "private", "protected", "override",
    "readonly", "module", "any", "number", "boolean", "string", "symbol", "export", "object", "new", "readonly",
    "get", "set", "async", "static", "let"].map t))]

/-- Rules that the base grammar has and this one has not. -/
def dropped : List String := ["using_declaration", "field_definition"]

def forHeader : Rules := [
  ("_for_header", seqs [
    t "(",
    oneOf [
      .field "left" (oneOf [n "_lhs_expression", n "parenthesized_expression"]),
      seqs [.field "kind" (t "var"), .field "left" bindingName, opt (n "_initializer")],
      seqs [.field "kind" (oneOf [t "let", t "const"]), .field "left" bindingName,
        opt (n "_automatic_semicolon")]],
    .field "operator" (oneOf [t "in", t "of"]),
    .field "right" (n "_expressions"),
    t ")"])]

def rules (withTags : Bool) : Rules :=
  override (JavaScript.rules.filter fun (name, _) => !dropped.contains name)
    (changedMembers ++ [("expression", expressionForms withTags)] ++ changedTags ++ changedModules ++
      changedClasses ++ forHeader ++ declarations ++ types)

def orders : List (List Rank) := JavaScript.orders ++ [
  [.named "call", .named "instantiation", .named "unary", .named "binary", .rule "await_expression",
    .rule "arrow_function"],
  [.named "extends", .named "instantiation"],
  [.rule "intersection_type", .rule "union_type", .rule "conditional_type", .rule "function_type",
    .named "binary", .rule "type_predicate", .rule "readonly_type"],
  [.rule "mapped_type_clause", .rule "primary_expression"],
  [.rule "accessibility_modifier", .rule "primary_expression"],
  [.named "unary_void", .rule "expression"],
  [.rule "extends_clause", .rule "primary_expression"],
  [.named "unary", .named "assign"],
  [.named "declare", .rule "expression"],
  [.rule "predefined_type", .rule "unary_expression"],
  [.rule "type", .rule "flow_maybe_type"],
  [.rule "tuple_type", .rule "array_type", .rule "pattern", .rule "type"],
  [.rule "readonly_type", .rule "pattern"],
  [.rule "readonly_type", .rule "primary_expression"],
  [.rule "type_query", .rule "subscript_expression", .rule "expression"],
  [.rule "type_query", .rule "_type_query_subscript_expression"],
  [.rule "nested_type_identifier", .rule "generic_type", .rule "primary_type", .rule "lookup_type",
    .rule "index_type_query", .rule "type"],
  [.rule "as_expression", .rule "satisfies_expression", .rule "primary_type"],
  [.rule "_type_query_member_expression", .rule "member_expression"],
  [.rule "member_expression", .rule "_type_query_member_expression_in_type_annotation"],
  [.rule "_type_query_member_expression", .rule "primary_expression"],
  [.rule "_type_query_subscript_expression", .rule "subscript_expression"],
  [.rule "_type_query_subscript_expression", .rule "primary_expression"],
  [.rule "_type_query_call_expression", .rule "primary_expression"],
  [.rule "_type_query_instantiation_expression", .rule "primary_expression"],
  [.rule "type_query", .rule "primary_expression"],
  [.rule "override_modifier", .rule "primary_expression"],
  [.rule "decorator_call_expression", .rule "decorator"],
  [.rule "literal_type", .rule "pattern"],
  [.rule "predefined_type", .rule "pattern"],
  [.rule "call_expression", .rule "_type_query_call_expression"],
  [.rule "call_expression", .rule "_type_query_call_expression_in_type_annotation"],
  [.rule "new_expression", .rule "primary_expression"],
  [.rule "meta_property", .rule "primary_expression"],
  [.rule "construct_signature", .rule "_property_name"]]

def grammar (withTags : Bool) : Ruleset :=
  { JavaScript.grammar with
    rules := rules withTags
    contextual := JavaScript.contextual ++ ["_function_signature_automatic_semicolon"]
    groups := JavaScript.groups ++ ["type", "primary_type"]
    inlined := (JavaScript.inlined.filter fun name => name != "_formal_parameter" && name != "_call_signature") ++
      ["_type_identifier", "_jsx_start_opening_element"]
    orders
    reserved := [] }

end ChangeGraph.Script.TypeScript
