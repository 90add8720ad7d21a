import SyntaxServer.Diagnostic
import SyntaxServer.Error
import SyntaxServer.Syntax.Engine
import SyntaxServer.Syntax.Fold
import SyntaxServer.Product

/-! # Documents

An open document: its text, the tree and the line table of that text, and the version they belong to.
-/
namespace SyntaxServer

structure Document where
  language : Language
  text : Text
  tree : Tree
  version : Int
  lines : LineTable
deriving Repr

namespace Document

/-- A document at some version, with the tree of its text. -/
def ofTree (language : Language) (text : Text) (tree : Tree) (version : Int) : Document :=
  ⟨language, text, tree, version, LineTable.ofText text⟩

/-- The document with a new text, the tree of that text and the version that brought it. -/
def revise (d : Document) (text : Text) (tree : Tree) (version : Int) : Document :=
  { d with text, tree, version, lines := LineTable.ofText text }

@[simp] theorem lines_ofTree (language : Language) (text : Text) (tree : Tree) (version : Int) :
    (ofTree language text tree version).lines = LineTable.ofText text := rfl

@[simp] theorem revise_eq_ofTree (d : Document) (text : Text) (tree : Tree) (version : Int) :
    d.revise text tree version = ofTree d.language text tree version := rfl

/-- An update must be newer than the document. -/
def checkNewer (d : Document) (uri : Uri) (received : Int) : Except Error Unit :=
  if received ≤ d.version then .error (.outOfOrderEdit uri d.version received) else .ok ()

variable (d : Document)

def pointAt? (p : Position) : Option Point := d.lines.pointAt? d.text p

def spanBetween (start stop : Point) : Span := d.lines.span d.text start stop

def nodeSpan (n : Node) : Span := d.spanBetween n.start n.stop

def innermost? (p : Point) : Option Tree.Located := d.tree.innermost? p

def folds : List FoldRange := d.tree.folds

/-- What a fault is called: anything that does not fit is an error, and a missing node is named. -/
def faultMessage (n : Node) : String :=
  if n.error then "Syntax error" else "Missing `" ++ n.kind ++ "`"

/-- The diagnostics of a document: one for each outermost fault of its tree. -/
def diagnostics : List Diagnostic :=
  d.tree.allFaults.map fun n => {
    span := d.nodeSpan n
    severity := some .error
    source := some Product.name
    message := faultMessage n }

end Document

end SyntaxServer
