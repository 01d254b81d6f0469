import EqualityTree.Eval.Cache
import EqualityTree.Expr.Render
import EqualityTree.Proofs.Backends
import EqualityTree.Proofs.Faults
import EqualityTree.Proofs.Negation
import EqualityTree.Proofs.Rewriting
import EqualityTree.Proofs.Meaning
import EqualityTree.Proofs.NewNodes
import EqualityTree.Proofs.CacheHistory
import EqualityTree.Proofs.Equivalence
import EqualityTree.Proofs.Lifting
import EqualityTree.Proofs.Tours
import EqualityTree.Proofs.Bindings
import EqualityTree.Proofs.CommonValues
import EqualityTree.Proofs.Blame
import EqualityTree.Proofs.Elements
import EqualityTree.Proofs.Inclusion
import EqualityTree.Proofs.Unambiguity
import EqualityTree.Session.Build
import EqualityTree.Session.Catalog
import EqualityTree.Session.Evaluation
