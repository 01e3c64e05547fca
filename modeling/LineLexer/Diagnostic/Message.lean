import LineLexer.Text.Fields

/-!
# Message templates

Every number under which a diagnostic can be raised has one template. A `#` in
a template is a marker: the markers are filled, in order, with the identifiers of
the diagnostic, and a marker for which no identifier is left stays as it is.
-/

namespace LineLexer.Message

/-- The marker of a template. -/
def marker : Char := '#'

/-- The templates in the order of their numbers. -/
def templates : List (Nat × String) :=
  [ -- command line
   (101, "unknown subcommand"),
   (102, "unknown option"),
   (103, "wrong arguments"),
   (104, "wrong argument for option #"),
   -- project directory
   (121, "invalid plan name"),
   (122, "invalid source file name"),
   (123, "invalid folder name"),
   (124, "plan directory not found"),
   (125, "resource directory not found"),
   -- limits of the language
   (201, "too many lines of code"),
   (202, "too long code line"),
   (203, "too many levels of indentation"),
   (204, "too long name"),
   (205, "too many namespaces"),
   (206, "too many parameters"),
   (207, "too nested data"),
   (208, "too long string literal for type #"),
   (209, "too long number literal for type #"),
   (210, "too long documentation"),
   -- lexical analysis
   (211, "indentation with tabulator"),
   (212, "illegal tabulator character"),
   (213, "illegal character"),
   (214, "illegal character within a word"),
   (215, "illegal character within a number literal"),
   (216, "illegal character within a binary literal"),
   (217, "illegal character within a hexadecimal literal"),
   (218, "invalid number literal"),
   (219, "invalid number literal: missing integer part before fraction part"),
   (220, "invalid number literal: missing decimal point before repetend"),
   (221, "invalid number literal: uncompleted repetend"),
   (222, "invalid string literal"),
   (223, "missing demarcation"),
   (224, "missing demarcation between literals"),
   (225, "missing demarcation from number literal"),
   (226, "missing demarcation from string literal"),
   (227, "unknown string prefix"),
   (228, "unknown punctuation")]

/-- The template of a number. -/
def template? (number : Nat) : Option String :=
  templates.lookup number

/-- Puts one identifier between each two neighbouring parts, and the marker once they run out. -/
def weave : List (List Char) → List String → List Char
  | [], _ => []
  | [part], _ => part
  | part :: rest, [] => part ++ marker :: weave rest []
  | part :: rest, id :: ids => part ++ id.toList ++ weave rest ids

/-- Fills the markers of a template with identifiers. -/
def substitute (template : String) (ids : List String) : String :=
  String.ofList (weave (Text.fields marker template.toList) ids)

end LineLexer.Message
