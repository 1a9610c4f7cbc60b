/-!
# Line ends

Text files may end their lines in three ways. Reading such a file as text turns each of them into
the line feed: a carriage return that a line feed follows is dropped, any other carriage return
becomes a line feed.
-/

namespace Calculator.Text

/-- A text in which every line end is a line feed, in reverse order on top of `done`. -/
def lineFeedsOnto (done : List Char) : List Char → List Char
  | [] => done
  | '\r' :: '\n' :: cs => lineFeedsOnto ('\n' :: done) cs
  | c :: cs => lineFeedsOnto ((if c = '\r' then '\n' else c) :: done) cs

/-- A text in which every line end is a line feed. -/
def lineFeeds (cs : List Char) : List Char :=
  (lineFeedsOnto [] cs).reverse

end Calculator.Text
