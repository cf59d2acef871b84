/-
Module: Backoffice.Xml.Text
Purpose: Character data of XML.
Main exports: Xml.escapeChar, Xml.escape
-/

namespace Backoffice.Xml

/-- A character as character data: the five characters with a meaning in XML become
the predefined entities. -/
def escapeChar (c : Char) : List Char :=
  if c = '&' then ['&', 'a', 'm', 'p', ';']
  else if c = '<' then ['&', 'l', 't', ';']
  else if c = '>' then ['&', 'g', 't', ';']
  else if c = '"' then ['&', 'q', 'u', 'o', 't', ';']
  else if c = '\'' then ['&', 'a', 'p', 'o', 's', ';']
  else [c]

/-- A text as character data. -/
def escape (chars : List Char) : List Char := chars.flatMap escapeChar

end Backoffice.Xml
