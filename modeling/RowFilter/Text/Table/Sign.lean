import RowFilter.Text.CharSet

/-!
# Signs by their use

Punctuation and symbols that are told apart by their use rather than by their category.
-/

set_option autoImplicit false
set_option maxRecDepth 4000

namespace RowFilter.Text.Sign

/-- Dashes. -/
def dash : CodeTable where
  spans := [
    (0x2d, 0x2d), (0x58a, 0x58a), (0x5be, 0x5be), (0x1400, 0x1400), (0x1806, 0x1806),
    (0x2010, 0x2015), (0x2053, 0x2053), (0x207b, 0x207b), (0x208b, 0x208b), (0x2212, 0x2212),
    (0x2e17, 0x2e17), (0x2e1a, 0x2e1a), (0x2e3a, 0x2e3b), (0x2e40, 0x2e40), (0x2e5d, 0x2e5d),
    (0x301c, 0x301c), (0x3030, 0x3030), (0x30a0, 0x30a0), (0xfe31, 0xfe32), (0xfe58, 0xfe58),
    (0xfe63, 0xfe63), (0xff0d, 0xff0d), (0x10d6e, 0x10d6e), (0x10ead, 0x10ead)]

/-- Signs that divide words. -/
def hyphen : CodeTable where
  spans := [
    (0x2d, 0x2d), (0xad, 0xad), (0x58a, 0x58a), (0x1806, 0x1806), (0x2010, 0x2011),
    (0x2e17, 0x2e17), (0x30fb, 0x30fb), (0xfe63, 0xfe63), (0xff0d, 0xff0d), (0xff65, 0xff65)]

/-- Quotation marks. -/
def quotation : CodeTable where
  spans := [
    (0x22, 0x22), (0x27, 0x27), (0xab, 0xab), (0xbb, 0xbb), (0x2018, 0x201f), (0x2039, 0x203a),
    (0x2e42, 0x2e42), (0x300c, 0x300f), (0x301d, 0x301f), (0xfe41, 0xfe44), (0xff02, 0xff02),
    (0xff07, 0xff07), (0xff62, 0xff63)]

/-- Signs that end a unit of text. -/
def terminal : CodeTable where
  spans := [
    (0x21, 0x21), (0x2c, 0x2c), (0x2e, 0x2e), (0x3a, 0x3b), (0x3f, 0x3f), (0x37e, 0x37e),
    (0x387, 0x387), (0x589, 0x589), (0x5c3, 0x5c3), (0x60c, 0x60c), (0x61b, 0x61b), (0x61d, 0x61f),
    (0x6d4, 0x6d4), (0x700, 0x70a), (0x70c, 0x70c), (0x7f8, 0x7f9), (0x830, 0x835), (0x837, 0x83e),
    (0x85e, 0x85e), (0x964, 0x965), (0xe5a, 0xe5b), (0xf08, 0xf08), (0xf0d, 0xf12),
    (0x104a, 0x104b), (0x1361, 0x1368), (0x166e, 0x166e), (0x16eb, 0x16ed), (0x1735, 0x1736),
    (0x17d4, 0x17d6), (0x17da, 0x17da), (0x1802, 0x1805), (0x1808, 0x1809), (0x1944, 0x1945),
    (0x1aa8, 0x1aab), (0x1b4e, 0x1b4f), (0x1b5a, 0x1b5b), (0x1b5d, 0x1b5f), (0x1b7d, 0x1b7f),
    (0x1c3b, 0x1c3f), (0x1c7e, 0x1c7f), (0x2024, 0x2024), (0x203c, 0x203d), (0x2047, 0x2049),
    (0x2cf9, 0x2cfb), (0x2e2e, 0x2e2e), (0x2e3c, 0x2e3c), (0x2e41, 0x2e41), (0x2e4c, 0x2e4c),
    (0x2e4e, 0x2e4f), (0x2e53, 0x2e54), (0x3001, 0x3002), (0xa4fe, 0xa4ff), (0xa60d, 0xa60f),
    (0xa6f3, 0xa6f7), (0xa876, 0xa877), (0xa8ce, 0xa8cf), (0xa92f, 0xa92f), (0xa9c7, 0xa9c9),
    (0xaa5d, 0xaa5f), (0xaadf, 0xaadf), (0xaaf0, 0xaaf1), (0xabeb, 0xabeb), (0xfe12, 0xfe12),
    (0xfe15, 0xfe16), (0xfe50, 0xfe52), (0xfe54, 0xfe57), (0xff01, 0xff01), (0xff0c, 0xff0c),
    (0xff0e, 0xff0e), (0xff1a, 0xff1b), (0xff1f, 0xff1f), (0xff61, 0xff61), (0xff64, 0xff64),
    (0x1039f, 0x1039f), (0x103d0, 0x103d0), (0x10857, 0x10857), (0x1091f, 0x1091f),
    (0x10a56, 0x10a57), (0x10af0, 0x10af5), (0x10b3a, 0x10b3f), (0x10b99, 0x10b9c),
    (0x10f55, 0x10f59), (0x10f86, 0x10f89), (0x11047, 0x1104d), (0x110be, 0x110c1),
    (0x11141, 0x11143), (0x111c5, 0x111c6), (0x111cd, 0x111cd), (0x111de, 0x111df),
    (0x11238, 0x1123c), (0x112a9, 0x112a9), (0x113d4, 0x113d5), (0x1144b, 0x1144d),
    (0x1145a, 0x1145b), (0x115c2, 0x115c5), (0x115c9, 0x115d7), (0x11641, 0x11642),
    (0x1173c, 0x1173e), (0x11944, 0x11944), (0x11946, 0x11946), (0x11a42, 0x11a43),
    (0x11a9b, 0x11a9c), (0x11aa1, 0x11aa2), (0x11c41, 0x11c43), (0x11c71, 0x11c71),
    (0x11ef7, 0x11ef8), (0x11f43, 0x11f44), (0x12470, 0x12474), (0x16a6e, 0x16a6f),
    (0x16af5, 0x16af5), (0x16b37, 0x16b39), (0x16b44, 0x16b44), (0x16d6e, 0x16d6f),
    (0x16e97, 0x16e98), (0x1bc9f, 0x1bc9f), (0x1da87, 0x1da8a)]

/-- Signs that end a sentence. -/
def sentenceEnd : CodeTable where
  spans := [
    (0x21, 0x21), (0x2e, 0x2e), (0x3f, 0x3f), (0x589, 0x589), (0x61d, 0x61f), (0x6d4, 0x6d4),
    (0x700, 0x702), (0x7f9, 0x7f9), (0x837, 0x837), (0x839, 0x839), (0x83d, 0x83e), (0x964, 0x965),
    (0x104a, 0x104b), (0x1362, 0x1362), (0x1367, 0x1368), (0x166e, 0x166e), (0x1735, 0x1736),
    (0x17d4, 0x17d5), (0x1803, 0x1803), (0x1809, 0x1809), (0x1944, 0x1945), (0x1aa8, 0x1aab),
    (0x1b4e, 0x1b4f), (0x1b5a, 0x1b5b), (0x1b5e, 0x1b5f), (0x1b7d, 0x1b7f), (0x1c3b, 0x1c3c),
    (0x1c7e, 0x1c7f), (0x2024, 0x2024), (0x203c, 0x203d), (0x2047, 0x2049), (0x2cf9, 0x2cfb),
    (0x2e2e, 0x2e2e), (0x2e3c, 0x2e3c), (0x2e53, 0x2e54), (0x3002, 0x3002), (0xa4ff, 0xa4ff),
    (0xa60e, 0xa60f), (0xa6f3, 0xa6f3), (0xa6f7, 0xa6f7), (0xa876, 0xa877), (0xa8ce, 0xa8cf),
    (0xa92f, 0xa92f), (0xa9c8, 0xa9c9), (0xaa5d, 0xaa5f), (0xaaf0, 0xaaf1), (0xabeb, 0xabeb),
    (0xfe12, 0xfe12), (0xfe15, 0xfe16), (0xfe52, 0xfe52), (0xfe56, 0xfe57), (0xff01, 0xff01),
    (0xff0e, 0xff0e), (0xff1f, 0xff1f), (0xff61, 0xff61), (0x10a56, 0x10a57), (0x10f55, 0x10f59),
    (0x10f86, 0x10f89), (0x11047, 0x11048), (0x110be, 0x110c1), (0x11141, 0x11143),
    (0x111c5, 0x111c6), (0x111cd, 0x111cd), (0x111de, 0x111df), (0x11238, 0x11239),
    (0x1123b, 0x1123c), (0x112a9, 0x112a9), (0x113d4, 0x113d5), (0x1144b, 0x1144c),
    (0x115c2, 0x115c3), (0x115c9, 0x115d7), (0x11641, 0x11642), (0x1173c, 0x1173e),
    (0x11944, 0x11944), (0x11946, 0x11946), (0x11a42, 0x11a43), (0x11a9b, 0x11a9c),
    (0x11c41, 0x11c42), (0x11ef7, 0x11ef8), (0x11f43, 0x11f44), (0x16a6e, 0x16a6f),
    (0x16af5, 0x16af5), (0x16b37, 0x16b38), (0x16b44, 0x16b44), (0x16d6e, 0x16d6f),
    (0x16e98, 0x16e98), (0x1bc9f, 0x1bc9f), (0x1da88, 0x1da88)]

/-- Mathematical signs that are no mathematical symbols. -/
def math : CodeTable where
  spans := [
    (0x5e, 0x5e), (0x3d0, 0x3d2), (0x3d5, 0x3d5), (0x3f0, 0x3f1), (0x3f4, 0x3f5), (0x2016, 0x2016),
    (0x2032, 0x2034), (0x2040, 0x2040), (0x2061, 0x2064), (0x207d, 0x207e), (0x208d, 0x208e),
    (0x20d0, 0x20dc), (0x20e1, 0x20e1), (0x20e5, 0x20e6), (0x20eb, 0x20ef), (0x2102, 0x2102),
    (0x2107, 0x2107), (0x210a, 0x2113), (0x2115, 0x2115), (0x2119, 0x211d), (0x2124, 0x2124),
    (0x2128, 0x2129), (0x212c, 0x212d), (0x212f, 0x2131), (0x2133, 0x2138), (0x213c, 0x213f),
    (0x2145, 0x2149), (0x2195, 0x2199), (0x219c, 0x219f), (0x21a1, 0x21a2), (0x21a4, 0x21a5),
    (0x21a7, 0x21a7), (0x21a9, 0x21ad), (0x21b0, 0x21b1), (0x21b6, 0x21b7), (0x21bc, 0x21cd),
    (0x21d0, 0x21d1), (0x21d3, 0x21d3), (0x21d5, 0x21db), (0x21dd, 0x21dd), (0x21e4, 0x21e5),
    (0x2308, 0x230b), (0x23b4, 0x23b5), (0x23b7, 0x23b7), (0x23d0, 0x23d0), (0x23e2, 0x23e2),
    (0x25a0, 0x25a1), (0x25ae, 0x25b6), (0x25bc, 0x25c0), (0x25c6, 0x25c7), (0x25ca, 0x25cb),
    (0x25cf, 0x25d3), (0x25e2, 0x25e2), (0x25e4, 0x25e4), (0x25e7, 0x25ec), (0x2605, 0x2606),
    (0x2640, 0x2640), (0x2642, 0x2642), (0x2660, 0x2663), (0x266d, 0x266e), (0x27c5, 0x27c6),
    (0x27e6, 0x27ef), (0x2983, 0x2998), (0x29d8, 0x29db), (0x29fc, 0x29fd), (0xfe61, 0xfe61),
    (0xfe63, 0xfe63), (0xfe68, 0xfe68), (0xff3c, 0xff3c), (0xff3e, 0xff3e), (0x1d400, 0x1d454),
    (0x1d456, 0x1d49c), (0x1d49e, 0x1d49f), (0x1d4a2, 0x1d4a2), (0x1d4a5, 0x1d4a6),
    (0x1d4a9, 0x1d4ac), (0x1d4ae, 0x1d4b9), (0x1d4bb, 0x1d4bb), (0x1d4bd, 0x1d4c3),
    (0x1d4c5, 0x1d505), (0x1d507, 0x1d50a), (0x1d50d, 0x1d514), (0x1d516, 0x1d51c),
    (0x1d51e, 0x1d539), (0x1d53b, 0x1d53e), (0x1d540, 0x1d544), (0x1d546, 0x1d546),
    (0x1d54a, 0x1d550), (0x1d552, 0x1d6a5), (0x1d6a8, 0x1d6c0), (0x1d6c2, 0x1d6da),
    (0x1d6dc, 0x1d6fa), (0x1d6fc, 0x1d714), (0x1d716, 0x1d734), (0x1d736, 0x1d74e),
    (0x1d750, 0x1d76e), (0x1d770, 0x1d788), (0x1d78a, 0x1d7a8), (0x1d7aa, 0x1d7c2),
    (0x1d7c4, 0x1d7cb), (0x1d7ce, 0x1d7ff), (0x1ee00, 0x1ee03), (0x1ee05, 0x1ee1f),
    (0x1ee21, 0x1ee22), (0x1ee24, 0x1ee24), (0x1ee27, 0x1ee27), (0x1ee29, 0x1ee32),
    (0x1ee34, 0x1ee37), (0x1ee39, 0x1ee39), (0x1ee3b, 0x1ee3b), (0x1ee42, 0x1ee42),
    (0x1ee4d, 0x1ee4f), (0x1ee51, 0x1ee52), (0x1ee54, 0x1ee54), (0x1ee61, 0x1ee62),
    (0x1ee64, 0x1ee64), (0x1ee67, 0x1ee6a), (0x1ee6c, 0x1ee72), (0x1ee74, 0x1ee77),
    (0x1ee79, 0x1ee7c), (0x1ee7e, 0x1ee7e), (0x1ee80, 0x1ee89), (0x1ee8b, 0x1ee9b),
    (0x1eea1, 0x1eea3), (0x1eea5, 0x1eea9), (0x1eeab, 0x1eebb)]
  alternating := [
    (0x1ee47, 0x1ee4b), (0x1ee57, 0x1ee5f)]

/-- Signs that are mirrored in text from right to left. -/
def mirrored : CodeTable where
  spans := [
    (0x28, 0x29), (0x3c, 0x3c), (0x3e, 0x3e), (0x5b, 0x5b), (0x5d, 0x5d), (0x7b, 0x7b),
    (0x7d, 0x7d), (0xab, 0xab), (0xbb, 0xbb), (0xf3a, 0xf3d), (0x169b, 0x169c), (0x2039, 0x203a),
    (0x2045, 0x2046), (0x207d, 0x207e), (0x208d, 0x208e), (0x2140, 0x2140), (0x2201, 0x2204),
    (0x2208, 0x220d), (0x2211, 0x2211), (0x2215, 0x2216), (0x221a, 0x221d), (0x221f, 0x2222),
    (0x2224, 0x2224), (0x2226, 0x2226), (0x222b, 0x2233), (0x2239, 0x2239), (0x223b, 0x224c),
    (0x2252, 0x2255), (0x225f, 0x2260), (0x2262, 0x2262), (0x2264, 0x226b), (0x226d, 0x228c),
    (0x228f, 0x2292), (0x2298, 0x2298), (0x22a2, 0x22a3), (0x22a6, 0x22b8), (0x22be, 0x22bf),
    (0x22c9, 0x22cd), (0x22d0, 0x22d1), (0x22d6, 0x22ed), (0x22f0, 0x22ff), (0x2308, 0x230b),
    (0x2320, 0x2321), (0x2329, 0x232a), (0x2768, 0x2775), (0x27c0, 0x27c0), (0x27c3, 0x27c6),
    (0x27c8, 0x27c9), (0x27cb, 0x27cd), (0x27d3, 0x27d6), (0x27dc, 0x27de), (0x27e2, 0x27ef),
    (0x2983, 0x2998), (0x299b, 0x29a0), (0x29a2, 0x29af), (0x29b8, 0x29b8), (0x29c0, 0x29c5),
    (0x29c9, 0x29c9), (0x29ce, 0x29d2), (0x29d4, 0x29d5), (0x29d8, 0x29dc), (0x29e1, 0x29e1),
    (0x29e3, 0x29e5), (0x29e8, 0x29e9), (0x29f4, 0x29f9), (0x29fc, 0x29fd), (0x2a0a, 0x2a1c),
    (0x2a1e, 0x2a21), (0x2a24, 0x2a24), (0x2a26, 0x2a26), (0x2a29, 0x2a29), (0x2a2b, 0x2a2e),
    (0x2a34, 0x2a35), (0x2a3c, 0x2a3e), (0x2a57, 0x2a58), (0x2a64, 0x2a65), (0x2a6a, 0x2a6d),
    (0x2a6f, 0x2a70), (0x2a73, 0x2a74), (0x2a79, 0x2aa3), (0x2aa6, 0x2aad), (0x2aaf, 0x2ad6),
    (0x2adc, 0x2adc), (0x2ade, 0x2ade), (0x2ae2, 0x2ae6), (0x2aec, 0x2aee), (0x2af3, 0x2af3),
    (0x2af7, 0x2afb), (0x2afd, 0x2afd), (0x2bfe, 0x2bfe), (0x2e02, 0x2e05), (0x2e09, 0x2e0a),
    (0x2e0c, 0x2e0d), (0x2e1c, 0x2e1d), (0x2e20, 0x2e29), (0x2e55, 0x2e5c), (0x3008, 0x3011),
    (0x3014, 0x301b), (0xfe59, 0xfe5e), (0xfe64, 0xfe65), (0xff08, 0xff09), (0xff1c, 0xff1c),
    (0xff1e, 0xff1e), (0xff3b, 0xff3b), (0xff3d, 0xff3d), (0xff5b, 0xff5b), (0xff5d, 0xff5d),
    (0xff5f, 0xff60), (0xff62, 0xff63), (0x1d6db, 0x1d6db), (0x1d715, 0x1d715), (0x1d74f, 0x1d74f),
    (0x1d789, 0x1d789), (0x1d7c3, 0x1d7c3)]

/-- Signs that control the direction of text. -/
def direction : CodeTable where
  spans := [
    (0x61c, 0x61c), (0x200e, 0x200f), (0x202a, 0x202e), (0x2066, 0x2069)]

end RowFilter.Text.Sign
