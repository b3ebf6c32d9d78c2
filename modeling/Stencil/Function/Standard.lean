import Stencil.Function.Addresses
import Stencil.Function.Arithmetic
import Stencil.Function.Lists
import Stencil.Function.Logic
import Stencil.Function.Times
import Stencil.Function.Words
/-!
The functions every template can call.
-/

namespace Stencil.Function

def standard : Registry Function :=
  .ofList "function" (words ++ logic ++ arithmetic ++ lists ++ times ++ addresses)

end Stencil.Function
