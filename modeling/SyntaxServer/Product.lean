/-! # The server's name

How the server calls itself towards clients and on the command line.
-/
namespace SyntaxServer.Product

def name : String := "sitter-lsp"

def version : String := "0.1.0"

def about : String := "Language server for JSON, TOML and YAML backed by tree-sitter"

end SyntaxServer.Product
